/-
This file settles when the firewall answers an ICMP error message with another
one. A filter reports none, since the ICMP filter looks at the type and the
others never get ICMP. The router does not look, so it reports whatever error
message runs out of time, has no next hop, or is for a neighbour that is found
unreachable, at once or after it waited.
-/

import LionsOS.Firewall.IcmpSystem

open Function

namespace LionsOS.Firewall

open StepRun RouterSystem List

variable {interfaces : Nat} {config : FwRouterConfig interfaces} {buffer : NetBuffDesc}

variable {room : Nat} {interface : Fin interfaces} {event : RouterEvent interfaces}

/-! ### Answering an error -/

/-- A request for an error message about an ICMP error message. -/
def IcmpReport.AnswersError (report : IcmpReport interfaces) : Prop :=
  icmpErrorSent report.req.type = true ∧ report.packet.isIcmpError = true

/-- The error messages among the frames answer packets that are no ICMP error messages. -/
def AnswerNoError (emitted : List (IcmpFrame interfaces × Option Packet)) : Prop :=
  ∀ frame source, (frame, source) ∈ emitted → icmpErrorSent (frame.packet icmpHdrOffset) = true →
    ∃ packet, source = some packet ∧ packet.isIcmpError = false

/-- No error message is requested about an ICMP error message, and none that was sent answers
one. -/
structure IcmpSystem.NoErrorAnswered (system : IcmpSystem interfaces) : Prop where
  router : ∀ report ∈ system.routerReports, ¬ report.AnswersError
  filters : ∀ protocol interface, ∀ report ∈ system.filterReports protocol interface,
    ¬ report.AnswersError
  emitted : AnswerNoError system.emitted

/-! ### What the router reports -/

/-- `route` answers a packet with an error message. When the time to live has run out the packet
is reported as it came, otherwise after it was decremented. -/
inductive RouteAnswers (config : FwRouterConfig interfaces) (router : Router interfaces)
    (interface : Fin interfaces) (packet : Packet) : Packet → Prop
  | expired (routable : Router.Routable packet)
    (notMine : packet.dstIp ≠ (config.interface interface).ip) (expired : packet.ttl ≤ 1) :
    RouteAnswers config router interface packet packet
  | noRoute (routable : Router.Routable packet)
    (notMine : packet.dstIp ≠ (config.interface interface).ip) (alive : 1 < packet.ttl)
    (noHop : ∀ nextHop subnet outInterface, fwRoutingFindRoute router.routingTable packet.dstIp =
      (nextHop, some (subnet, outInterface)) →
        nextHop = fwRoutingNonexthop ∨ nextHop = (config.interface outInterface).ip) :
    RouteAnswers config router interface packet packet.decremented
  | unreachable {nextHop : UInt32T} {subnet : UInt8T} {outInterface : Fin interfaces}
    {arp : FwArpEntry} (routable : Router.Routable packet)
    (notMine : packet.dstIp ≠ (config.interface interface).ip) (alive : 1 < packet.ttl)
    (route : fwRoutingFindRoute router.routingTable packet.dstIp =
      (nextHop, some (subnet, outInterface)))
    (hop : ¬ (nextHop = fwRoutingNonexthop ∨ nextHop = (config.interface outInterface).ip))
    (notBroadcast : ~~~ subnetMask subnet ||| nextHop ≠ packet.dstIp)
    (entry : router.arpEntry outInterface nextHop = some arp)
    (unreachable : arp.state = .unreachable) :
    RouteAnswers config router interface packet packet.decremented

/-- The router has an error message sent about an ICMP error message: `route` does so about the
packet at the head of a queue, or `process_arp_waiting` about a packet that waits for an address
that is unreachable, and the queue to the ICMP module has room. -/
def RouterAnswersError (config : FwRouterConfig interfaces) (router : Router interfaces) :
    RouterEvent interfaces → Prop
  | .route interface filter => ∃ buffer rest packet,
      (router.fwFilters interface filter).entries = buffer :: rest ∧
      RouteAnswers config router interface (router.data interface buffer.ioOrOffset) packet ∧
      packet.isIcmpError = true ∧ 0 < router.icmpQueue.room
  | .respond outInterface => ∃ response rest root index buffer,
      (router.arpRespQueue outInterface).entries = response :: rest ∧
      response.state = .unreachable ∧
      pktWaitingFindNode (router.pktWaitingQueue outInterface) response.ip = some root ∧
      ((router.pktWaitingQueue outInterface).buffersOf root)[index]? = some buffer ∧
      (router.data buffer.interface buffer.offset).isIcmpError = true ∧
      index < router.icmpQueue.room
  | _ => False

/-- The only steps that have an ICMP error message answered are those of the router. -/
def IcmpSystem.AnswersError (config : IcmpSystemConfig interfaces)
    (system : IcmpSystem interfaces) : IcmpEvent interfaces → Prop
  | .router event => RouterAnswersError config.router system.routing.router event
  | _ => False

theorem exists_answersError_singleton {report : IcmpReport interfaces}
    (isError : icmpErrorSent report.req.type = true) :
    (∃ found ∈ [report].take room, found.AnswersError) ↔
      report.packet.isIcmpError = true ∧ 0 < room := by
  cases room with
  | zero => simp
  | succ room => simp [IcmpReport.AnswersError, isError]

theorem unreachableReport_isError (nextHop : UInt32T) (packet : Packet)
    (outInterface : Fin interfaces) :
    icmpErrorSent (unreachableReport nextHop packet outInterface).req.type = true := rfl

namespace Router

variable {router : Router interfaces}

/-- The answers of `route`, by its verdict on the packet. -/
theorem routeAnswers_iff {packet reported : Packet} :
    RouteAnswers config router interface packet reported ↔
      match routeVerdict config router interface packet with
      | .expired => reported = packet
      | .noRoute _ => reported = packet.decremented
      | .forward nextHop outInterface => reported = packet.decremented ∧
          ((router.arpEntry outInterface nextHop).any fun arp => arp.state == .unreachable) = true
      | .drop | .mine | .subnetBroadcast => False := by
  constructor
  · intro answers
    cases answers with
    | expired routable notMine expired =>
      rw [routeVerdict, if_neg routable.unicast, if_neg (not_not.mpr routable.ethtype),
        if_neg notMine, if_pos expired]
    | noRoute routable notMine alive noHop =>
      rw [routeVerdict, if_neg routable.unicast, if_neg (not_not.mpr routable.ethtype),
        if_neg notMine, if_neg (BitVec.not_le.mpr alive)]
      rcases route : fwRoutingFindRoute router.routingTable packet.dstIp with
        ⟨nextHop, _ | ⟨subnet, outInterface⟩⟩
      · rfl
      · dsimp only
        rw [if_pos (noHop nextHop subnet outInterface route)]
    | unreachable routable notMine alive route hop notBroadcast entry unreachable =>
      rw [routeVerdict, if_neg routable.unicast, if_neg (not_not.mpr routable.ethtype),
        if_neg notMine, if_neg (BitVec.not_le.mpr alive), route]
      dsimp only
      rw [if_neg hop, if_neg notBroadcast]
      dsimp only
      rw [entry, Option.any_some, unreachable]
      exact ⟨rfl, rfl⟩
  · unfold routeVerdict
    split_ifs with unicast ethtype mine expired
    · exact False.elim
    · exact False.elim
    · exact False.elim
    · rintro rfl
      exact RouteAnswers.expired ⟨unicast, not_not.mp ethtype⟩ mine expired
    · have routable : Routable packet := ⟨unicast, not_not.mp ethtype⟩
      have alive : 1 < packet.ttl := BitVec.not_le.mp expired
      rcases route : fwRoutingFindRoute router.routingTable packet.dstIp with
        ⟨nextHop, _ | ⟨subnet, outInterface⟩⟩
      · rintro rfl
        refine RouteAnswers.noRoute routable mine alive fun _ _ _ other => ?_
        rw [route] at other
        cases other
      · dsimp only
        split_ifs with hop broadcast
        · rintro rfl
          refine RouteAnswers.noRoute routable mine alive fun _ _ _ other => ?_
          rw [route, Prod.mk.injEq] at other
          obtain ⟨rfl, rfl, rfl⟩ := other
          exact hop
        · exact False.elim
        · rintro ⟨rfl, found⟩
          obtain ⟨arp, entry, unreachable⟩ := (Option.any_eq_true _ _).mp found
          exact RouteAnswers.unreachable routable mine alive route hop broadcast entry
            (beq_iff_eq.mp unreachable)

/-- The reports of `route` that are errors are its answers. -/
theorem routeReports_answersError :
    (∃ report ∈ (routeReports config router interface buffer).take room, report.AnswersError) ↔
      ∃ packet, RouteAnswers config router interface (router.data interface buffer.ioOrOffset)
        packet ∧ packet.isIcmpError = true ∧ 0 < room := by
  simp only [routeAnswers_iff]
  unfold routeReports
  dsimp only
  cases routeVerdict config router interface (router.data interface buffer.ioOrOffset) with
  | drop => simp
  | mine =>
    refine iff_of_false ?_ (by simp)
    rintro ⟨report, member, answers⟩
    split_ifs at member with replies
    · have isReply := echoReports_type (mem_of_mem_take member)
      rw [IcmpReport.AnswersError, isReply] at answers
      exact absurd answers.1 (by decide)
    · simp at member
  | expired =>
    rw [exists_answersError_singleton rfl]
    exact ⟨fun answers => ⟨_, rfl, answers⟩, fun ⟨_, same, answers⟩ => same ▸ answers⟩
  | noRoute nextHop =>
    rw [exists_answersError_singleton (unreachableReport_isError _ _ _)]
    exact ⟨fun answers => ⟨_, rfl, answers⟩, fun ⟨_, same, answers⟩ => same ▸ answers⟩
  | subnetBroadcast => simp
  | forward nextHop outInterface =>
    dsimp only
    by_cases unreachable :
        ((router.arpEntry outInterface nextHop).any fun arp => arp.state == .unreachable) = true
    · rw [if_pos unreachable, exists_answersError_singleton (unreachableReport_isError _ _ _)]
      exact ⟨fun answers => ⟨_, ⟨rfl, unreachable⟩, answers⟩,
        fun ⟨_, ⟨same, _⟩, answers⟩ => same ▸ answers⟩
    · rw [if_neg unreachable]
      refine iff_of_false (by simp) ?_
      rintro ⟨_, ⟨_, found⟩, _⟩
      exact unreachable found

/-- The reports of `process_arp_waiting` are about the packets that wait for an address that is
unreachable. -/
theorem respondReports_answersError {outInterface : Fin interfaces} {response : FwArpRequest} :
    (∃ report ∈ (router.respondReports outInterface response).take room, report.AnswersError) ↔
      ∃ root index buffer, response.state = .unreachable ∧
        pktWaitingFindNode (router.pktWaitingQueue outInterface) response.ip = some root ∧
        ((router.pktWaitingQueue outInterface).buffersOf root)[index]? = some buffer ∧
        (router.data buffer.interface buffer.offset).isIcmpError = true ∧ index < room := by
  unfold respondReports
  cases found : pktWaitingFindNode (router.pktWaitingQueue outInterface) response.ip with
  | none => simp
  | some root =>
    dsimp only
    by_cases unreachable : response.state = .unreachable
    · rw [if_pos unreachable]
      constructor
      · rintro ⟨report, member, _, isError⟩
        obtain ⟨index, inside, rfl⟩ := List.mem_take_iff_getElem.mp member
        rw [List.length_map] at inside
        rw [List.getElem_map] at isError
        exact ⟨root, index, _, unreachable, rfl, List.getElem?_eq_getElem (by omega), isError,
          by omega⟩
      · rintro ⟨_, index, buffer, _, same, found, isError, inside⟩
        cases same
        obtain ⟨bound, rfl⟩ := List.getElem?_eq_some_iff.mp found
        refine ⟨_, List.mem_take_iff_getElem.mpr ⟨index, ?_, rfl⟩, ?_⟩
        · rw [List.length_map]
          omega
        · rw [List.getElem_map]
          exact ⟨rfl, isError⟩
    · rw [if_neg unreachable]
      refine iff_of_false (by simp) ?_
      rintro ⟨_, _, _, isUnreachable, _⟩
      exact unreachable isUnreachable

end Router

theorem RouterSystem.eventReports_answersError {system : RouterSystem interfaces} :
    (∃ report ∈ (system.eventReports config event).take system.router.icmpQueue.room,
      report.AnswersError) ↔ RouterAnswersError config system.router event := by
  unfold RouterAnswersError eventReports
  cases event with
  | route interface filter =>
    dsimp only
    cases (system.router.fwFilters interface filter).entries with
    | nil => simp
    | cons buffer rest =>
      rw [Router.routeReports_answersError]
      constructor
      · rintro ⟨packet, answers, isError⟩
        exact ⟨buffer, rest, packet, rfl, answers, isError⟩
      · rintro ⟨_, _, packet, same, answers, isError⟩
        cases same
        exact ⟨packet, answers, isError⟩
  | respond outInterface =>
    dsimp only
    cases (system.router.arpRespQueue outInterface).entries with
    | nil => simp
    | cons response rest =>
      rw [Router.respondReports_answersError]
      constructor
      · rintro ⟨root, index, buffer, unreachable, found, inside⟩
        exact ⟨response, rest, root, index, buffer, rfl, unreachable, found, inside⟩
      · rintro ⟨_, _, root, index, buffer, same, unreachable, found, inside⟩
        cases same
        exact ⟨root, index, buffer, unreachable, found, inside⟩
  | _ => simp

/-- A step of the router enqueues its reports, unless the ICMP module takes one. -/
theorem RouterSystem.step_icmpQueue {system next : RouterSystem interfaces}
    (balanced : system.Balanced) (step : RouterStep config system event next)
    (others : event ≠ .takeIcmp) :
    next.router.icmpQueue =
      enqueueReports system.router.icmpQueue (system.eventReports config event) := by
  unfold eventReports
  obtain ⟨result, performed, outcome⟩ := performs_of_eq step
  cases performed with
  | route buffer queue entries capacity =>
    obtain ⟨router, routed, rfl⟩ := Fallible.map_eq_ok outcome
    have reported := Router.routePacket_icmpQueue routed
    dsimp only
    rw [entries]
    exact reported
  | @respond outInterface response queue dequeued =>
    obtain ⟨router, resolved, rfl⟩ := Fallible.map_eq_ok outcome
    have sound : Router.WaitingSound { system.router with
        arpRespQueue := update system.router.arpRespQueue outInterface queue } :=
      balanced.waitingSound
    have reported := Router.processArpResponse_icmpQueue sound resolved
    dsimp only
    rw [(fwDequeue_eq_some.mp dequeued).1]
    exact reported
  | takeIcmp queue => exact absurd rfl others
  | _ =>
    cases outcome
    rfl

/-! ### The records -/

namespace IcmpSystem

variable {config : IcmpSystemConfig interfaces} {system next : IcmpSystem interfaces}

variable {protocol : FilterProtocol} {reports : List (IcmpReport interfaces)}

/-- The recorded packets are those of the requests in the queues. -/
structure Recorded (system : IcmpSystem interfaces) : Prop where
  balanced : system.routing.Balanced
  router : system.routing.router.icmpQueue.entries = system.routerReports.map IcmpReport.req
  filters : ∀ protocol interface, (system.filterIcmpQueue protocol interface).entries =
    (system.filterReports protocol interface).map IcmpReport.req

theorem Initial.recorded (initial : system.Initial) : system.Recorded where
  balanced := initial.routing.balanced
  router := by rw [initial.routerQueue, initial.routerReports, map_nil]
  filters protocol interface := by
    rw [initial.filterQueue, initial.filterReports, map_nil]

theorem Initial.noErrorAnswered (initial : system.Initial) : system.NoErrorAnswered where
  router := by simp [initial.routerReports]
  filters := by simp [initial.filterReports]
  emitted := by simp [initial.emitted, AnswerNoError]

/-- Processing a request sends a message of its type, recorded with the packet it is about. -/
theorem emit_answerNoError {free : Option Packet} {report : IcmpReport interfaces}
    {reports : List (IcmpReport interfaces)} (emitted : AnswerNoError system.emitted)
    (notError : ¬ report.AnswersError) :
    AnswerNoError (system.emit config free report.req (report :: reports)).emitted := by
  intro frame source member isError
  rcases mem_append.mp member with old | new
  · exact emitted frame source old isError
  · rw [Option.mem_toList, Option.map_eq_some_iff] at new
    obtain ⟨sent, processed, same⟩ := new
    cases same
    have type : frame.packet icmpHdrOffset = report.req.type := processIcmpRequest_type processed
    rw [type] at isError
    exact ⟨report.packet, rfl, Bool.eq_false_iff.mpr fun about => notError ⟨isError, about⟩⟩

/-- What a filter does with a packet: it may add reports, but of no error about an error, and it may
hand the packet over to the router. -/
theorem receive_cases {packet : Packet}
    (received : system.receive config protocol interface buffer packet = some next) :
    ∃ (queue : FwQueue (IcmpReq interfaces)) (added : List (IcmpReport interfaces)),
      queue.entries = (system.filterIcmpQueue protocol interface).entries ++
        added.map IcmpReport.req ∧
      (∀ report ∈ added, ¬ report.AnswersError) ∧
      next.filterIcmpQueue = update system.filterIcmpQueue protocol
        (update (system.filterIcmpQueue protocol) interface queue) ∧
      next.filterReports = update system.filterReports protocol
        (update (system.filterReports protocol) interface
          (system.filterReports protocol interface ++ added)) ∧
      next.routerReports = system.routerReports ∧ next.emitted = system.emitted ∧
      (next.routing = system.routing ∨ ∃ forwarded, RouterStep config.router system.routing
        (.arrive interface (config.filterIndex protocol) buffer forwarded) next.routing) := by
  simp only [receive, Option.ite_none_right_eq_some] at received
  obtain ⟨mine, received⟩ := received
  have mine := protocol_of_getProtocolMatch (config.isFilter interface protocol) mine
  have reported := protocol.filter_icmpQueue (config.filter interface)
    (system.filters protocol interface) ((system.filters protocol).externalInstances interface)
    (system.filterIcmpQueue protocol interface) mine
  generalize protocol.filter (config.filter interface) (system.filters protocol interface)
    ((system.filters protocol).externalInstances interface)
    (system.filterIcmpQueue protocol interface) packet = result at received reported
  refine ⟨result.icmpQueue, (result.icmpQueue.entries.drop
    (system.filterIcmpQueue protocol interface).entries.length).map fun req => { req, packet },
    ?_, ?_, ?_⟩
  · rw [map_map]
    show _ = _ ++ map id _
    rw [map_id]
    rcases reported with same | ⟨_, same⟩
    · rw [same, drop_length, append_nil]
    · rw [same, icmpEnqueueError_eq]
      rcases fwEnqueueOrDrop_cases (system.filterIcmpQueue protocol interface)
        (errorReport icmpDestUnreachable icmpDestPortUnreachable packet
          (config.filter interface).interface).req with ⟨unchanged, _⟩ | ⟨entries, _⟩
      · rw [unchanged, drop_length, append_nil]
      · rw [entries, drop_left]
  · intro report member answers
    obtain ⟨req, inNew, rfl⟩ := mem_map.mp member
    rcases reported with same | ⟨notError, _⟩
    · rw [same, drop_length] at inNew
      cases inNew
    · exact Bool.false_ne_true (notError.symm.trans answers.2)
  · cases forwarded : result.transmitted with
    | none =>
      rw [forwarded] at received
      cases received
      exact ⟨rfl, rfl, rfl, rfl, Or.inl rfl⟩
    | some forwarded =>
      rw [forwarded] at received
      obtain ⟨routing, arrived, rfl⟩ := Option.map_eq_some_iff.mp received
      exact ⟨rfl, rfl, rfl, rfl, Or.inr ⟨_, step_of_next _ _ _ arrived⟩⟩

theorem routerActs_cases (acted : system.routerActs config event = some next) :
    event.isShared = false ∧ ∃ routing, RouterStep config.router system.routing event routing ∧
      next = { system with
        routing
        routerReports := system.routerReports ++
          (system.routing.eventReports config.router event).take
            system.routing.router.icmpQueue.room } := by
  simp only [routerActs, Option.ite_none_left_eq_some] at acted
  obtain ⟨alone, acted⟩ := acted
  obtain ⟨routing, performed, rfl⟩ := Option.map_eq_some_iff.mp acted
  exact ⟨Bool.eq_false_iff.mpr alone, routing, step_of_next _ _ _ performed, rfl⟩

/-- A change to one filter's queue and record that keeps them the same keeps all of them. -/
theorem Recorded.update_filters (recorded : system.Recorded) {queue : FwQueue (IcmpReq interfaces)}
    (same : queue.entries = reports.map IcmpReport.req) :
    ∀ otherProtocol other,
      (update system.filterIcmpQueue protocol
        (update (system.filterIcmpQueue protocol) interface queue) otherProtocol other).entries =
      (update system.filterReports protocol
        (update (system.filterReports protocol) interface reports)
          otherProtocol other).map IcmpReport.req := by
  intro otherProtocol other
  by_cases here : (otherProtocol, other) = (protocol, interface)
  · cases here
    rw [update_at_self, update_at_self]
    exact same
  · rw [update_at_of_ne _ _ here, update_at_of_ne _ _ here]
    exact recorded.filters otherProtocol other

theorem step_recorded (recorded : system.Recorded) {event : IcmpEvent interfaces}
    (taken : IcmpStep config system event next) : next.Recorded := by
  cases event with
  | receive protocol interface buffer packet =>
    obtain ⟨queue, added, entries, _, queues, reports, routerReports, _, routing⟩ :=
      receive_cases taken
    have filters : queue.entries =
        (system.filterReports protocol interface ++ added).map IcmpReport.req := by
      rw [entries, recorded.filters, map_append]
    refine ⟨?_, ?_, ?_⟩
    · rcases routing with same | ⟨forwarded, arrived⟩
      · exact same ▸ recorded.balanced
      · exact (step_balanced recorded.balanced arrived).1
    · rw [routerReports, ← recorded.router]
      rcases routing with same | ⟨forwarded, arrived⟩
      · rw [same]
      · rw [step_icmpQueue recorded.balanced arrived (by simp)]
        rfl
    · rw [queues, reports]
      exact recorded.update_filters filters
  | callFilter protocol interface call =>
    unfold IcmpStep perform callFilter at taken
    dsimp only at taken
    split at taken
    case h_1 => cases taken
    case h_2 =>
      cases taken
      exact ⟨recorded.balanced, recorded.router, recorded.filters⟩
  | router event =>
    obtain ⟨alone, routing, step, rfl⟩ := routerActs_cases taken
    refine ⟨(step_balanced recorded.balanced step).1, ?_, recorded.filters⟩
    have others : event ≠ .takeIcmp := by
      rintro rfl
      cases alone
    rw [step_icmpQueue recorded.balanced step others, enqueueReports_entries,
      recorded.router, map_append]
  | generateRouter free =>
    obtain ⟨⟨req, queue⟩, dequeued, rfl⟩ := Option.map_eq_some_iff.mp taken
    obtain ⟨entries, _⟩ := fwDequeue_eq_some.mp dequeued
    refine ⟨⟨recorded.balanced.waitingSound, recorded.balanced.dequeued⟩, ?_, recorded.filters⟩
    rw [map_tail, ← recorded.router, entries, tail_cons]
  | generateFilter protocol interface free =>
    obtain ⟨⟨req, queue⟩, dequeued, rfl⟩ := Option.map_eq_some_iff.mp taken
    obtain ⟨entries, _⟩ := fwDequeue_eq_some.mp dequeued
    refine ⟨recorded.balanced, recorded.router, recorded.update_filters ?_⟩
    rw [map_tail, ← recorded.filters, entries, tail_cons]

/-- The filters' records stay free of errors about errors when one of them is replaced by one
that is. -/
theorem NoErrorAnswered.update_filters (clean : system.NoErrorAnswered)
    (replaced : ∀ report ∈ reports, ¬ report.AnswersError) :
    ∀ otherProtocol other, ∀ report ∈ update system.filterReports protocol
      (update (system.filterReports protocol) interface reports) otherProtocol other,
        ¬ report.AnswersError := by
  intro otherProtocol other
  by_cases here : (otherProtocol, other) = (protocol, interface)
  · cases here
    rw [update_at_self]
    exact replaced
  · rw [update_at_of_ne _ _ here]
    exact clean.filters otherProtocol other

theorem step_noErrorAnswered_iff (recorded : system.Recorded) (clean : system.NoErrorAnswered)
    {event : IcmpEvent interfaces} (taken : IcmpStep config system event next) :
    next.NoErrorAnswered ↔ ¬ system.AnswersError config event := by
  cases event with
  | receive protocol interface buffer packet =>
    obtain ⟨queue, added, _, notErrors, _, reports, routerReports, emitted, _⟩ :=
      receive_cases taken
    refine iff_of_true ⟨?_, ?_, ?_⟩ id
    · exact routerReports ▸ clean.router
    · rw [reports]
      refine clean.update_filters fun report member => ?_
      rcases mem_append.mp member with old | new
      · exact clean.filters protocol interface report old
      · exact notErrors report new
    · exact emitted ▸ clean.emitted
  | callFilter protocol interface call =>
    unfold IcmpStep perform callFilter at taken
    dsimp only at taken
    split at taken
    case h_1 => cases taken
    case h_2 =>
      cases taken
      exact iff_of_true ⟨clean.router, clean.filters, clean.emitted⟩ id
  | router event =>
    obtain ⟨alone, routing, step, rfl⟩ := routerActs_cases taken
    rw [AnswersError, ← eventReports_answersError, not_exists]
    constructor
    · rintro cleanNext report ⟨member, answers⟩
      exact cleanNext.router report (mem_append_right _ member) answers
    · intro notErrors
      refine ⟨fun report member answers => ?_, clean.filters, clean.emitted⟩
      rcases mem_append.mp member with old | new
      · exact clean.router report old answers
      · exact notErrors report ⟨new, answers⟩
  | generateRouter free =>
    obtain ⟨⟨req, queue⟩, dequeued, rfl⟩ := Option.map_eq_some_iff.mp taken
    obtain ⟨entries, _⟩ := fwDequeue_eq_some.mp dequeued
    have requests := recorded.router.symm.trans entries
    obtain ⟨report, rest, reports, rfl, _⟩ := map_eq_cons_iff.mp requests
    refine iff_of_true ⟨?_, clean.filters, ?_⟩ id
    · exact fun other member => clean.router other (mem_of_mem_tail member)
    · have notError := clean.router report (reports ▸ mem_cons_self)
      have answered := @emit_answerNoError _ config system free report rest clean.emitted notError
      rw [reports]
      exact answered
  | generateFilter protocol interface free =>
    obtain ⟨⟨req, queue⟩, dequeued, rfl⟩ := Option.map_eq_some_iff.mp taken
    obtain ⟨entries, _⟩ := fwDequeue_eq_some.mp dequeued
    have requests := (recorded.filters protocol interface).symm.trans entries
    obtain ⟨report, rest, reports, rfl, _⟩ := map_eq_cons_iff.mp requests
    refine iff_of_true ⟨clean.router, ?_, ?_⟩ id
    · exact clean.update_filters fun other member =>
        clean.filters protocol interface other (mem_of_mem_tail member)
    · have notError := clean.filters protocol interface report (reports ▸ mem_cons_self)
      have answered := @emit_answerNoError _ config system free report rest clean.emitted notError
      rw [reports]
      exact answered

end IcmpSystem

/-! ### Whole runs -/

/-- In every run of the filters, the router, the components around it and the ICMP module, no error
message is requested or sent about an ICMP error message exactly as long as the router takes no
step in which it has one sent: by routing an ICMP error message whose time to live runs out, that
has no next hop but the firewall, or whose next hop is known to be unreachable, or by learning that
an address is unreachable for which one waits. -/
theorem errors_unanswered_iff {config : IcmpSystemConfig interfaces}
    {start : IcmpSystem interfaces} (initial : start.Initial)
    {events : List (IcmpEvent interfaces)} {system : IcmpSystem interfaces} :
    Run (Within IcmpSystem.NoErrorAnswered (IcmpStep config)) start events system ↔
      Run (Guarded (fun system event => ¬ system.AnswersError config event) (IcmpStep config))
        start events system := by
  refine run_within_iff_guarded IcmpSystem.Recorded initial.recorded initial.noErrorAnswered ?_ ?_
  · intro system event next recorded taken
    exact IcmpSystem.step_recorded recorded taken
  · intro system event next recorded clean taken
    exact IcmpSystem.step_noErrorAnswered_iff recorded clean taken

/-- An ICMP message from 10.0.0.5 to 10.0.0.2, on its last hop. -/
def lastHopPacket (type : UInt8T) : Packet := fun i =>
  if i = 12 then 0x08 else if i = 14 then 0x45 else if i = 22 then 1 else if i = 23 then 1 else
    if i = 26 then 10 else if i = 29 then 5 else if i = 30 then 10 else if i = 33 then 2 else
      if i = 34 then type else 0

/-- One interface, whose receive virtualiser has the three filters as clients. -/
def oneInterfaceConfig : IcmpSystemConfig 1 where
  router := sampleConfig 1
  icmpModule :=
    { interface := fun _ => { macAddr := fun _ => 0, ip := 0 }, networkHwHasChecksum := false }
  actions := fun _ _ => 1
  rxClients := fun _ => [FilterProtocol.icmp.rxClient, FilterProtocol.tcp.rxClient,
    FilterProtocol.udp.rxClient]
  rxClient := fun _ protocol =>
    match protocol with
    | .icmp => 0
    | .tcp => 1
    | .udp => 2
  isFilter := fun _ protocol => by cases protocol <;> rfl
  filterIndex := fun _ => sampleFilter

/-- Filters that allow everything. -/
def allowingSystem : IcmpSystem 1 where
  routing := idle 1 1
  filters := fun _ _ => (FwFilterState.zeroed 1 1).withFirstRule (defaultActionRule FwAction.allow)
  filterIcmpQueue := fun _ _ => FwQueue.empty 1
  routerReports := []
  filterReports := fun _ _ => []
  emitted := []

theorem allowingSystem_initial : allowingSystem.Initial where
  routing := idle_initial 1 1
  routerQueue := rfl
  filterQueue _ _ := rfl
  routerReports := rfl
  filterReports _ _ := rfl
  emitted := rfl

/-- A message passes the ICMP filter, runs out of time at the router, and is answered. -/
def lastHopEvents (type : UInt8T) : List (IcmpEvent 1) :=
  [.receive .icmp 0 sampleBuffer (lastHopPacket type), .router (.route 0 sampleFilter),
    .generateRouter (some fun _ => 0)]

/-- The ping may be answered with an error message. -/
theorem errors_unanswered_iff_sample :
    ∃ system, Run (Within IcmpSystem.NoErrorAnswered (IcmpStep oneInterfaceConfig)) allowingSystem
      (lastHopEvents icmpEchoReq) system := by
  obtain ⟨received, routed, generated, step₁, step₂, step₃, entries, data⟩ :
      ∃ received routed generated, IcmpStep oneInterfaceConfig allowingSystem
          (.receive .icmp 0 sampleBuffer (lastHopPacket icmpEchoReq)) received ∧
        IcmpStep oneInterfaceConfig received (.router (.route 0 sampleFilter)) routed ∧
        IcmpStep oneInterfaceConfig routed (.generateRouter (some fun _ => 0)) generated ∧
        (received.routing.router.fwFilters 0 sampleFilter).entries = [sampleBuffer] ∧
        received.routing.router.data 0 0 = lastHopPacket icmpEchoReq :=
    ⟨_, _, _, rfl, rfl, rfl, rfl, rfl⟩
  have notError : ¬ received.AnswersError oneInterfaceConfig (.router (.route 0 sampleFilter)) := by
    rintro ⟨buffer, rest, packet, same, answers, isError, _⟩
    rw [entries] at same
    cases same
    cases answers with
    | expired | noRoute | unreachable =>
      exact absurd (data ▸ isError) (by decide)
  exact ⟨generated, (errors_unanswered_iff allowingSystem_initial).mpr
    (((Run.single ⟨id, step₁⟩).snoc ⟨notError, step₂⟩).snoc ⟨id, step₃⟩)⟩

/-- The error message is answered with one that its time is exceeded. -/
theorem error_answered_with_error :
    allowingSystem.Initial ∧ ∃ system frame, Run (IcmpStep oneInterfaceConfig) allowingSystem
        (lastHopEvents icmpDestUnreachable) system ∧
      system.emitted = [(frame, some (lastHopPacket icmpDestUnreachable))] ∧
      frame.packet icmpHdrOffset = icmpTtlExceed ∧
      (lastHopPacket icmpDestUnreachable).isIcmpError = true ∧ ¬ system.NoErrorAnswered := by
  obtain ⟨system, frame, run, emitted, type⟩ : ∃ system frame,
      Run (IcmpStep oneInterfaceConfig) allowingSystem (lastHopEvents icmpDestUnreachable) system ∧
      system.emitted = [(frame, some (lastHopPacket icmpDestUnreachable))] ∧
      frame.packet icmpHdrOffset = icmpTtlExceed :=
    ⟨_, _, Run.of_foldlM (fun _ _ _ performed => performed) rfl, rfl, rfl⟩
  have about : (lastHopPacket icmpDestUnreachable).isIcmpError = true := by decide
  refine ⟨allowingSystem_initial, system, frame, run, emitted, type, about, fun clean => ?_⟩
  obtain ⟨packet, same, notError⟩ := clean.emitted frame _ (emitted ▸ mem_singleton_self _)
    (by rw [type]; rfl)
  cases same
  exact Bool.false_ne_true (notError.symm.trans about)

end LionsOS.Firewall
