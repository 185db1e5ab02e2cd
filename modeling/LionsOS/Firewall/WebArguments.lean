/-
This file says when a call of the web server does what it was asked for: an error is
raised and the tables stay as they are, or the call has been carried out with the
values given. A call checks only the bits of an argument that it keeps, so that an
argument that is too wide names another entry, and a call whose action is unknown
returns although it has done nothing.
-/

import LionsOS.Firewall.WebOutcomes

open Function

namespace LionsOS.Firewall

open StepRun FwFilterState FirewallTables

variable {interfaces : Nat} {config : FwWebserverConfig interfaces}
  {tables next : FirewallTables interfaces} {state after : FwFilterState} {words : RuleWords}
  {interface protocol : UInt64T}

/-! ### What was asked for -/

/-- The filter that two arguments name. -/
structure Names (config : FwWebserverConfig interfaces) (interface protocol : UInt64T)
    (i : Fin interfaces) (m : Fin (config i).length) : Prop where
  interface : i.val = interface.toNat
  protocol : ((config i).get m).protocol.toNat = protocol.toNat

/-- The rule that the arguments are for. -/
structure RuleWords.Given (words : RuleWords) (args : FwFilterAddArgs) : Prop where
  srcIp : args.srcIp.toNat = words.srcIp.toNat
  srcPort : args.srcPort.toNat = words.srcPort.toNat
  srcPortAny : args.srcPortAny = (words.srcPortAny != 0)
  srcSubnet : args.srcSubnet.toNat = words.srcSubnet.toNat
  dstIp : args.dstIp.toNat = words.dstIp.toNat
  dstPort : args.dstPort.toNat = words.dstPort.toNat
  dstPortAny : args.dstPortAny = (words.dstPortAny != 0)
  dstSubnet : args.dstSubnet.toNat = words.dstSubnet.toNat
  action : args.action.stored.toNat = words.action.toNat

/-- The tables are as the call asks for, with the values that it was given. -/
def WebCall.CarriedOut (config : FwWebserverConfig interfaces)
    (tables next : FirewallTables interfaces) : WebCall → Prop
  | routeAdd args => ∃ (i : Fin interfaces) (ip : UInt32T) (subnet : UInt8T) (nextHop : UInt32T)
      (table : FwRoutingTable interfaces),
    args.map BitVec.toNat = [i.val, ip.toNat, subnet.toNat, nextHop.toNat] ∧
      fwRoutingTableAddRoute tables.router.routingTable i ip subnet nextHop = (.okay, table) ∧
      next = tables.withRoutes table
  | routeDelete routeId => ∃ table,
    fwRoutingTableRemoveRoute tables.router.routingTable routeId.toNat = (.okay, table) ∧
      next = tables.withRoutes table
  | ruleAdd args => ∃ words i m rule ruleId state, RuleWords.ofArgs args = some words ∧
    Names config words.interface words.protocol i m ∧ words.Given rule ∧
      fwFilterAddRule (tables.filterStates i m) rule = .ok (.okay, some ruleId, state) ∧
      next = tables.withFilter i m state
  | ruleDelete interface ruleId protocol => ∃ i m state, Names config interface protocol i m ∧
    fwFilterRemoveRule (tables.filterStates i m) ruleId.toNat = .ok (.okay, state) ∧
      next = tables.withFilter i m state
  | filterSetDefaultAction interface protocol action => ∃ i m state, ∃ given : UInt8T,
    Names config interface protocol i m ∧ given.toNat = action.toNat ∧
      fwFilterUpdateDefaultAction (tables.filterStates i m) (FwAction.loaded given) =
        .ok (.okay, state) ∧ next = tables.withFilter i m state

/-- An error leaves the tables as they are, and a call that returns has been carried out. -/
def WebCall.Right (config : FwWebserverConfig interfaces) (tables next : FirewallTables interfaces)
    (call : WebCall) : Except FwOsErr (Option Nat) → Prop
  | .error _ => next = tables
  | .ok _ => call.CarriedOut config tables next

def WebCall.Clean (config : FwWebserverConfig interfaces) (tables : FirewallTables interfaces)
    (call : WebCall) : Prop :=
  ∃ ended next, call.perform config tables = some (ended, next) ∧
    call.Right config tables next ended

/-- A field of `width` bits holds the argument. -/
def Fits (width : Nat) (word : UInt64T) : Prop := word.toNat < 2 ^ width

/-- The arguments of a rule fit, the action is known, and a rule for ICMP is given no port. -/
structure RuleWords.Fit (words : RuleWords) : Prop where
  interface : Fits 8 words.interface
  protocol : Fits 16 words.protocol
  srcIp : Fits 32 words.srcIp
  srcPort : Fits 16 words.srcPort
  srcSubnet : Fits 8 words.srcSubnet
  dstIp : Fits 32 words.dstIp
  dstPort : Fits 16 words.dstPort
  dstSubnet : Fits 8 words.dstSubnet
  action : Fits 8 words.action
  known : KnownAction (words.action.setWidth 8)
  icmp : words.protocol = 0x01 → words.srcPort = 0 ∧ words.srcPortAny ≠ 0 ∧ words.dstPort = 0 ∧
    words.dstPortAny ≠ 0

/-- The arguments fit the fields that keep them, and an action is a known one. -/
def WebCall.Fit : WebCall → Prop
  | routeAdd args => ∃ interface ip subnet nextHop, args = [interface, ip, subnet, nextHop] ∧
    Fits 8 interface ∧ Fits 32 ip ∧ Fits 8 subnet ∧ Fits 32 nextHop
  | routeDelete routeId => Fits 16 routeId
  | ruleAdd args => ∃ words, RuleWords.ofArgs args = some words ∧ words.Fit
  | ruleDelete interface ruleId protocol => Fits 8 interface ∧ Fits 16 ruleId ∧ Fits 16 protocol
  | filterSetDefaultAction interface protocol action =>
    Fits 8 interface ∧ Fits 16 protocol ∧ Fits 8 action ∧ KnownAction (action.setWidth 8)

/-! ### Narrowed arguments -/

section Widths

variable {width : Nat} {word : UInt64T}

theorem Fits.toNat (fits : Fits width word) : (word.setWidth width).toNat = word.toNat := by
  rw [BitVec.toNat_setWidth, Nat.mod_eq_of_lt fits]

theorem Fits.of_toNat {value : BitVec width} (same : value.toNat = word.toNat) :
    Fits width word := by
  unfold Fits
  exact same ▸ value.isLt

theorem setWidth_of_toNat {value : BitVec width} (same : value.toNat = word.toNat) :
    word.setWidth width = value :=
  BitVec.eq_of_toNat_eq ((Fits.of_toNat same).toNat.trans same.symm)

end Widths

variable {i : Fin interfaces} {m : Fin (config i).length}

theorem checkInterfaceIndex_ok {index : UInt8T}
    (checked : checkInterfaceIndex interfaces index = .ok i) : i.val = index.toNat := by
  unfold checkInterfaceIndex at checked
  split at checked <;> cases checked
  rfl

theorem selectFilter_ok (selects : selectFilter config interface protocol = .ok ⟨i, m⟩) :
    i.val = (interface.setWidth 8 : UInt8T).toNat ∧
      ((config i).get m).protocol = protocol.setWidth 16 := by
  unfold selectFilter at selects
  cases checked : checkInterfaceIndex interfaces (interface.setWidth 8) with
  | error => rw [checked] at selects; cases selects
  | ok other =>
    rw [checked] at selects
    cases found : findFilterIndex config other (protocol.setWidth 16) with
    | error =>
      simp only [found, bind, Except.bind] at selects
      cases selects
    | ok otherIndex =>
      simp only [found, bind, Except.bind, pure] at selects
      cases selects
      refine ⟨checkInterfaceIndex_ok checked, ?_⟩
      unfold findFilterIndex at found
      split at found <;> cases found
      case h_1 index => simpa using (List.findFinIdx?_eq_some_iff.mp index).1

theorem names_of_select (selects : selectFilter config interface protocol = .ok ⟨i, m⟩)
    (fits : Fits 8 interface) (fitsProtocol : Fits 16 protocol) :
    Names config interface protocol i m :=
  ⟨(selectFilter_ok selects).1.trans fits.toNat, by
    rw [(selectFilter_ok selects).2, fitsProtocol.toNat]⟩

theorem Names.fits (few : interfaces ≤ 4) (names : Names config interface protocol i m) :
    Fits 8 interface ∧ Fits 16 protocol := by
  refine ⟨?_, Fits.of_toNat names.protocol⟩
  unfold Fits
  have := names.interface
  omega

theorem RuleWords.Fit.given {filter : FilterProtocol} (fit : words.Fit)
    (icmp : filter = .icmp → words.protocol = 0x01) : words.Given (words.keptArgs filter) := by
  have action : (FwAction.loaded (words.action.setWidth 8)).stored.toNat = words.action.toNat := by
    rw [FwAction.stored, FwAction.loaded, BitVec.setWidth_setWidth_of_le _ (by decide),
      BitVec.setWidth_eq, fit.action.toNat]
  have any (word : UInt64T) : (keptBool word != 0#64) = (word != 0#64) := by
    unfold keptBool
    split <;> simp_all
  cases filter with
  | icmp =>
    obtain ⟨srcPort, srcPortAny, dstPort, dstPortAny⟩ := fit.icmp (icmp rfl)
    refine ⟨?_, ?_, (bne_iff_ne.mpr srcPortAny).symm, ?_, ?_, ?_, (bne_iff_ne.mpr dstPortAny).symm,
      ?_, (action_keptArgs words _).symm ▸ action⟩
    all_goals simp [-BitVec.toNat_setWidth, RuleWords.keptArgs, FilterProtocol.addArgs,
      FilterProtocol.ports, icmpFilterDummyPort, RuleWords.registers, messageRegisters,
      filterAddArgSrcIp, filterAddArgSrcSubnet, filterAddArgDstIp, filterAddArgDstSubnet, kept,
      fit.srcIp.toNat, fit.srcSubnet.toNat, fit.dstIp.toNat, fit.dstSubnet.toNat, srcPort, dstPort]
  | tcp | udp =>
    refine ⟨?_, ?_, ?_, ?_, ?_, ?_, ?_, ?_, (action_keptArgs words _).symm ▸ action⟩
    all_goals simp [-BitVec.toNat_setWidth, RuleWords.keptArgs, FilterProtocol.addArgs,
      FilterProtocol.ports, RuleWords.registers, messageRegisters, filterAddArgSrcIp,
      filterAddArgSrcSubnet, filterAddArgSrcPort, filterAddArgSrcAnyPort, filterAddArgDstIp,
      filterAddArgDstSubnet, filterAddArgDstPort, filterAddArgDstAnyPort, kept, any,
      fit.srcIp.toNat, fit.srcSubnet.toNat, fit.dstIp.toNat, fit.dstSubnet.toNat,
      fit.srcPort.toNat, fit.dstPort.toNat]

/-- The arguments of a rule that has been added as asked for fit. -/
theorem RuleWords.Given.fit {rule : FwFilterAddArgs} (few : interfaces ≤ 4)
    (names : Names config words.interface words.protocol i m) (given : words.Given rule)
    (known : KnownAction (words.action.setWidth 8))
    (icmp : words.protocol = 0x01 → rule.srcPort = 0 ∧ rule.srcPortAny = true ∧
      rule.dstPort = 0 ∧ rule.dstPortAny = true) : words.Fit where
  interface := (names.fits few).1
  protocol := (names.fits few).2
  srcIp := .of_toNat given.srcIp
  srcPort := .of_toNat given.srcPort
  srcSubnet := .of_toNat given.srcSubnet
  dstIp := .of_toNat given.dstIp
  dstPort := .of_toNat given.dstPort
  dstSubnet := .of_toNat given.dstSubnet
  action := .of_toNat given.action
  known := known
  icmp := by
    intro protocol
    obtain ⟨srcPort, srcPortAny, dstPort, dstPortAny⟩ := icmp protocol
    obtain ⟨_, givenSrc, givenSrcAny, _, _, givenDst, givenDstAny, _, _⟩ := given
    rw [srcPort] at givenSrc
    rw [srcPortAny] at givenSrcAny
    rw [dstPort] at givenDst
    rw [dstPortAny] at givenDstAny
    exact ⟨BitVec.eq_of_toNat_eq givenSrc.symm, by simpa using givenSrcAny.symm,
      BitVec.eq_of_toNat_eq givenDst.symm, by simpa using givenDstAny.symm⟩

/-! ### Which call is carried out -/

theorem FwFilterState.withRule_ne (state : FwFilterState) (args : FwFilterAddArgs) (ruleId : Nat) :
    state.withRule args ruleId ≠ state := by
  intro same
  have length := congrArg (fun state : FwFilterState => state.ruleTable.length) same
  simp [withRule] at length

/-- The tables tell which rule has been added. -/
theorem addedRule_unique {other : Fin interfaces} {index otherIndex ruleId otherId : Nat}
    {args otherArgs : FwFilterAddArgs}
    (same : tables.withFilter i index ((tables.filterStates i index).withRule args ruleId) =
      tables.withFilter other otherIndex
        ((tables.filterStates other otherIndex).withRule otherArgs otherId)) :
    args.rule ruleId = otherArgs.rule otherId := by
  have here := congrFun (congrFun (congrArg filterStates same) i) index
  rw [withFilter_self] at here
  by_cases there : (i, index) = (other, otherIndex)
  · obtain ⟨rfl, rfl⟩ := Prod.mk.inj there
    rw [withFilter_self] at here
    exact List.singleton_inj.mp (List.append_cancel_left (congrArg ruleTable here))
  · rw [withFilter_of_ne there] at here
    exact (withRule_ne _ _ _ here).elim

theorem removedRule_known {ruleId : Nat} (sound : RuleTableSound state)
    (removed : fwFilterRemoveRule state ruleId = .ok (.okay, after)) :
    ruleId ≠ defaultActionRuleId ∧ ruleId ∈ state.ruleIds := by
  constructor
  · rintro rfl
    cases removed
  · obtain ⟨front, rule, rest, table, _, rfl, _⟩ := removeRule_okay sound removed
    rw [ruleIds, table]
    exact List.mem_map_of_mem (List.mem_append_right _ List.mem_cons_self)

theorem WebCall.clean_of_performed {call : WebCall} {ended : Except FwOsErr (Option Nat)}
    (performed : call.perform config tables = some (ended, next)) :
    call.Clean config tables ↔ call.Right config tables next ended := by
  constructor
  · rintro ⟨_, _, performed', right⟩
    cases performed.symm.trans performed'
    exact right
  · exact fun right => ⟨_, _, performed, right⟩

theorem WebCall.clean_iff (few : interfaces ≤ 4) (sound : FirewallSound tables) (call : WebCall) :
    call.Clean config tables ↔ call.Refused config tables ∨ call.Fit := by
  obtain ⟨ended, next, performed, outcome⟩ := @WebCall.ends _ config _ sound call
  rw [WebCall.clean_of_performed performed]
  cases outcome with
  | refused err reason => exact iff_of_true rfl (.inl reason)
  | @routeAdded interface ip subnet nextHop i selects table added =>
    rw [or_iff_right fun refused => ?_]
    · constructor
      · rintro ⟨i, ip, subnet, nextHop, table, given, _⟩
        simp only [List.map_cons, List.map_nil, List.cons.injEq, and_true] at given
        obtain ⟨index, sameIp, sameSubnet, sameHop⟩ := given
        refine ⟨_, _, _, _, rfl, ?_, .of_toNat sameIp.symm, .of_toNat sameSubnet.symm,
          .of_toNat sameHop.symm⟩
        unfold Fits
        omega
      · rintro ⟨_, _, _, _, ⟨⟩, fits, fitsIp, fitsSubnet, fitsHop⟩
        refine ⟨i, _, _, _, table, ?_, added, rfl⟩
        simp only [List.map_cons, List.map_nil, checkInterfaceIndex_ok selects, fits.toNat,
          fitsIp.toNat, fitsSubnet.toNat, fitsHop.toNat]
    · obtain ⟨err, reason⟩ := refused i selects
      have failed := (fwRoutingTableAddRoute_err sound.routes _ _ _ _ reason.ne_okay).mpr reason
      rw [added] at failed
      exact reason.ne_okay failed.symm
  | @routeRemoved routeId table removed =>
    rw [or_iff_right fun refused => ?_]
    · constructor
      · rintro ⟨other, carried, _⟩
        rcases fwRoutingTableRemoveRoute_cases sound.routes.bounded routeId.toNat with
          ⟨_, failed⟩ | ⟨inside, _⟩
        · cases carried.symm.trans failed
        · exact (inside.trans_le sound.routes.bounded).trans sound.small
      · intro fits
        exact ⟨table, fits.toNat ▸ removed, rfl⟩
    · rcases fwRoutingTableRemoveRoute_cases sound.routes.bounded
        (routeId.setWidth 16 : UInt16T).toNat with ⟨_, failed⟩ | ⟨inside, _⟩
      · cases removed.symm.trans failed
      · exact absurd inside (Nat.not_lt.mpr refused)
  | @ruleAdded args words parsed i m selects known supported ruleId after added =>
    obtain ⟨rfl, accepted, _⟩ := addRule_okay (sound.filters i m).rules added
    rw [or_iff_right fun refused => ?_]
    · constructor
      · rintro ⟨words', i', m', rule, ruleId', state, parsed', names, given, carried, same⟩
        cases parsed.symm.trans parsed'
        obtain ⟨rfl, _⟩ := addRule_okay (sound.filters i' m').rules carried
        have stored := addedRule_unique same
        refine ⟨words, parsed, given.fit few names known fun icmp => ?_⟩
        have filter : ((config i).get m).filter = .icmp := by
          have protocol := (selectFilter_ok selects).2
          rw [icmp] at protocol
          unfold FwWebserverFilterConfig.protocol at protocol
          split at protocol
          · assumption
          · cases protocol
          · cases protocol
        rw [filter] at stored
        exact ⟨(congrArg FwRule.srcPort stored).symm, (congrArg FwRule.srcPortAny stored).symm,
          (congrArg FwRule.dstPort stored).symm, (congrArg FwRule.dstPortAny stored).symm⟩
      · rintro ⟨words', parsed', fit⟩
        cases parsed.symm.trans parsed'
        have names := names_of_select selects fit.interface fit.protocol
        refine ⟨words, i, m, _, ruleId, _, parsed, names, fit.given fun icmp => ?_, added, rfl⟩
        have protocol := names.protocol
        rw [FwWebserverFilterConfig.protocol, icmp] at protocol
        exact BitVec.eq_of_toNat_eq protocol.symm
    · rcases refused words parsed i m selects with ⟨_, unsupported⟩ | ⟨_, reason⟩
      · cases supported.symm.trans unsupported
      · exact accepted reason
  | @ruleRemoved interface ruleId protocol i m selects after removed =>
    rw [or_iff_right fun refused => ?_]
    · constructor
      · rintro ⟨i, m, state, names, carried, _⟩
        have rules := (sound.filters i m).rules
        refine ⟨(names.fits few).1, ?_, (names.fits few).2⟩
        exact (rules.below _ (removedRule_known rules carried).2).trans (sound.filters i m).small
      · rintro ⟨fits, fitsId, fitsProtocol⟩
        exact ⟨i, m, after, names_of_select selects fits fitsProtocol, fitsId.toNat ▸ removed, rfl⟩
    · obtain ⟨notDefault, used⟩ := removedRule_known (sound.filters i m).rules removed
      rcases refused i m selects with default | unused
      · exact notDefault default
      · exact unused used
  | @defaultSet interface protocol action i m selects known supported after updated =>
    rw [or_iff_right fun refused => ?_]
    · constructor
      · rintro ⟨i, m, state, given, names, same, _⟩
        exact ⟨(names.fits few).1, (names.fits few).2, .of_toNat same, known⟩
      · rintro ⟨fits, fitsProtocol, fitsAction, _⟩
        exact ⟨i, m, after, action.setWidth 8, names_of_select selects fits fitsProtocol,
          fitsAction.toNat, updated, rfl⟩
    · cases supported.symm.trans (refused i m selects).2
  | @ruleIgnored args words parsed i m selects unknown =>
    refine iff_of_false ?_ ?_
    · rintro ⟨_, i, m, rule, ruleId, state, _, _, _, carried, same⟩
      obtain ⟨rfl, _⟩ := addRule_okay (sound.filters i m).rules carried
      have here := congrFun (congrFun (congrArg filterStates same) i) m
      rw [withFilter_self] at here
      exact withRule_ne _ _ _ here.symm
    · rintro (refused | ⟨words', parsed', fit⟩)
      · rcases refused words parsed i m selects with ⟨known, _⟩ | ⟨known, _⟩ <;>
          exact unknown known
      · cases parsed.symm.trans parsed'
        exact unknown fit.known
  | @defaultIgnored interface protocol action i m selects unknown =>
    refine iff_of_false ?_ ?_
    · rintro ⟨i, m, state, given, _, sameAction, carried, same⟩
      have here := congrFun (congrFun (congrArg filterStates same) i) m
      rw [withFilter_self] at here
      obtain ⟨_, _, defaultRule, action, table⟩ :=
        setDefault_okay (sound.filters i m).rules carried
      have known := (sound.filters i m).actions defaultRule
        (by rw [here, table]; exact List.mem_cons_self)
      rw [action, ← setWidth_of_toNat sameAction] at known
      exact unknown known
    · rintro (refused | ⟨_, _, _, known⟩)
      · exact unknown (refused i m selects).1
      · exact unknown known

/-- However the web server, and the packets that the filters process, have changed the tables, a call
raises an error and leaves them as they are or has been carried out with the values given, if and
only if a check of what the call has kept of its arguments raises the error, or all arguments fit the
fields that keep them and the action is known. -/
theorem web_call_clean_iff {start : FirewallTables interfaces} (started : FirewallStarted start)
    {events : List (FirewallEvent interfaces)} (run : Run (FirewallStep config) start events tables)
    (call : WebCall) : call.Clean config tables ↔ call.Refused config tables ∨ call.Fit :=
  call.clean_iff started.few (started.run run)

/-- One interface, with a filter for UDP. -/
def udpConfig : FwWebserverConfig 1 :=
  fun _ => [{ filter := .udp, actions := fun _ => 1 }]

/-- The filter allows all packets, and there is one route. -/
def routedTables : FirewallTables 1 where
  filterStates := fun _ _ =>
    { zeroed 4 4 with
      ruleTable := [defaultActionRule FwAction.allow]
      ruleIdBitmap := (zeroed 4 4).ruleIdBitmap.reserve 0 }
  router :=
    { routingTable :=
        { capacity := 4, size := 1, entries := update (fun _ => ⟨0, 0, 0, 0⟩) 0 ⟨10, 8, 0, 0⟩ }
      pingResponseEnabled := fun _ => true }

theorem routedTables_started : FirewallStarted routedTables where
  few := by decide
  filters _ _ := by
    refine ⟨4, 4, [defaultActionRule FwAction.allow], by decide, rfl, fun rule member => ?_⟩
    rw [List.mem_singleton.mp member]
    decide
  routes := ⟨fun _ => ⟨0, 0, 0, 0⟩, 4, [⟨10, 8, 0, 0⟩], rfl⟩

/-- A route is removed. -/
theorem web_call_clean_iff_sample :
    (WebCall.routeDelete 0).Clean udpConfig routedTables ↔
      (WebCall.routeDelete 0).Refused udpConfig routedTables ∨ (WebCall.routeDelete 0).Fit :=
  web_call_clean_iff routedTables_started .nil _

/-- The deletion of route 65536 removes route 0, and the default action is said to have been set to
the unknown action 0. -/
theorem web_calls_not_clean : FirewallStarted routedTables ∧
    (∃ next, (WebCall.routeDelete 65536).perform udpConfig routedTables =
        some (.ok (some 0), next) ∧ next.router.routingTable.size = 0) ∧
      ¬ (WebCall.routeDelete 65536).Clean udpConfig routedTables ∧
      (WebCall.filterSetDefaultAction 0 0x11 0).perform udpConfig routedTables =
        some (.ok none, routedTables) ∧
      ¬ (WebCall.filterSetDefaultAction 0 0x11 0).Clean udpConfig routedTables := by
  have sound := routedTables_started.sound
  refine ⟨routedTables_started, ⟨_, rfl, rfl⟩, fun clean => ?_, rfl, fun clean => ?_⟩
  · rcases (WebCall.clean_iff (by decide) sound _).mp clean with refused | fits
    · exact absurd (show 1 ≤ 0 from refused) (by decide)
    · exact absurd (show (65536 : UInt64T).toNat < 2 ^ 16 from fits) (by decide)
  · rcases (WebCall.clean_iff (by decide) sound _).mp clean with refused | fits
    · exact absurd (refused 0 ⟨0, by decide⟩ rfl).1 (by decide)
    · exact absurd fits.2.2.2 (by decide)

end LionsOS.Firewall
