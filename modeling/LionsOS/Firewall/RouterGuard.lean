/-
This file says when the guard of `route` is enough for what it guards. It looks
at the request queue only if the ARP table has no entry for the next hop, but a
request is also enqueued for an entry that is pending on behalf of another client
of the ARP requester, when no packet waits for the address yet. With the queue
full the assertion of that enqueue then fails, and in no other case does one of
the three fail.
-/

import LionsOS.Firewall.ArpRouting
import LionsOS.Firewall.RouterAssertions
import LionsOS.Firewall.RouterVerdict

namespace LionsOS.Firewall

open StepRun ArpRouting

variable {interfaces : Nat}

/-! ### What the guard is for -/

/-- The request that `route` enqueues with a new root. -/
def addressRequest (nextHop : UInt32T) : FwArpRequest :=
  { ip := nextHop, macAddr := fun _ => 0, state := .invalid }

namespace Router

/-- The operations that park a packet succeed: behind a root the push of a child, and without one
the enqueue of the request and the push of a root. -/
structure ParkingSucceeds (router : Router interfaces) (outInterface : Fin interfaces)
    (nextHop : UInt32T) (buffer : FwBuffDesc interfaces) : Prop where
  child : ∀ root, pktWaitingFindNode (router.pktWaitingQueue outInterface) nextHop = some root →
    ∃ waiting, pktWaitingPushChild (router.pktWaitingQueue outInterface) root buffer = .ok waiting
  request : pktWaitingFindNode (router.pktWaitingQueue outInterface) nextHop = none →
    ∃ queue, fwEnqueue (router.arpReqQueue outInterface) (addressRequest nextHop) = some queue
  root : pktWaitingFindNode (router.pktWaitingQueue outInterface) nextHop = none →
    ∃ waiting, pktWaitingPush (router.pktWaitingQueue outInterface) nextHop buffer = .ok waiting

/-- What the guard overlooks: the entry of the next hop is pending although no packet waits for it
here, and its request finds the queue full. -/
structure RequestOverlooked (router : Router interfaces) (outInterface : Fin interfaces)
    (nextHop : UInt32T) : Prop where
  pending : ∃ arp, router.arpEntry outInterface nextHop = some arp ∧ arp.state = .pending
  noRoot : pktWaitingFindNode (router.pktWaitingQueue outInterface) nextHop = none
  room : pktWaitingFull (router.pktWaitingQueue outInterface) = false
  requestsFull : fwQueueFull (router.arpReqQueue outInterface) = true

variable {config : FwRouterConfig interfaces} {router : Router interfaces}
  {interface outInterface : Fin interfaces} {nextHop : UInt32T} {buffer : FwBuffDesc interfaces}

theorem parkPacket_isOk_iff :
    (∃ next, router.parkPacket buffer nextHop outInterface = .ok next) ↔
      router.ParkingSucceeds outInterface nextHop buffer := by
  unfold parkPacket
  cases found : pktWaitingFindNode (router.pktWaitingQueue outInterface) nextHop with
  | some root =>
    dsimp only
    constructor
    · rintro ⟨next, done⟩
      refine ⟨fun other same => ?_, fun none => absurd (found.symm.trans none) (by simp),
        fun none => absurd (found.symm.trans none) (by simp)⟩
      rw [found, Option.some.injEq] at same
      subst same
      split at done
      case h_1 => cases done
      case h_2 waiting pushed => exact ⟨waiting, pushed⟩
    · intro succeeds
      obtain ⟨waiting, pushed⟩ := succeeds.child root found
      rw [pushed]
      exact ⟨_, rfl⟩
  | none =>
    dsimp only
    constructor
    · rintro ⟨next, done⟩
      split at done
      case h_1 => cases done
      case h_2 queue enqueued =>
        split at done
        case h_1 => cases done
        case h_2 waiting pushed =>
          exact ⟨fun root some => absurd (found.symm.trans some) (by simp),
            fun _ => ⟨queue, enqueued⟩, fun _ => ⟨waiting, pushed⟩⟩
    · intro succeeds
      obtain ⟨queue, enqueued⟩ := succeeds.request found
      obtain ⟨waiting, pushed⟩ := succeeds.root found
      unfold addressRequest at enqueued
      rw [enqueued, pushed]
      exact ⟨_, rfl⟩

/-- With room in the waiting structure only the request can fail. -/
theorem parkingSucceeds_iff (room : pktWaitingFull (router.pktWaitingQueue outInterface) = false) :
    router.ParkingSucceeds outInterface nextHop buffer ↔
      (pktWaitingFindNode (router.pktWaitingQueue outInterface) nextHop = none →
        fwQueueFull (router.arpReqQueue outInterface) = false) := by
  have requested : (∃ queue, fwEnqueue (router.arpReqQueue outInterface) (addressRequest nextHop) =
      some queue) ↔ fwQueueFull (router.arpReqQueue outInterface) = false := by
    rw [← Option.isSome_iff_exists, ← Option.not_isNone, Bool.not_eq_true', fwQueueFull,
      beq_eq_false_iff_ne, ne_eq, ← fwEnqueue_eq_none, Option.isNone_eq_false_iff,
      Option.isSome_iff_ne_none]
  constructor
  · exact fun succeeds noRoot => requested.mp (succeeds.request noRoot)
  · intro asked
    exact ⟨fun root _ => PktsWaiting.pktWaitingPushChild_isOk root buffer room,
      fun noRoot => requested.mpr (asked noRoot),
      fun _ => PktsWaiting.pktWaitingPush_isOk nextHop buffer room⟩

/-- Behind the guard the operations succeed unless the request was overlooked. -/
theorem guard_covers_iff :
    (router.dropsUnparkable outInterface nextHop = false →
        unresolved (router.arpEntry outInterface nextHop) = true →
        router.ParkingSucceeds outInterface nextHop buffer) ↔
      ¬ router.RequestOverlooked outInterface nextHop := by
  constructor
  · rintro covers ⟨⟨arp, entry, pending⟩, noRoot, room, requestsFull⟩
    have passes : router.dropsUnparkable outInterface nextHop = false := by
      simp [dropsUnparkable, entry, pending, room]
    have succeeds := covers passes (by simp [unresolved, entry, pending])
    rw [parkingSucceeds_iff room, requestsFull] at succeeds
    exact Bool.false_ne_true (succeeds noRoot).symm
  · intro notOverlooked passes waits
    simp only [dropsUnparkable, waits, Bool.and_true, Bool.or_eq_false_iff] at passes
    obtain ⟨⟨_, room⟩, requestRoom⟩ := passes
    rw [parkingSucceeds_iff room]
    intro noRoot
    cases entry : router.arpEntry outInterface nextHop with
    | none =>
      rw [entry] at requestRoom
      exact requestRoom
    | some arp =>
      rw [unresolved, entry, Option.isNone_some, Bool.false_or, Option.any_some,
        beq_iff_eq] at waits
      refine Bool.eq_false_iff.mpr fun requestsFull => ?_
      exact notOverlooked ⟨⟨arp, entry, waits⟩, noRoot, room, requestsFull⟩

end Router

open Router

variable {config : FwRouterConfig interfaces} {router : Router interfaces}

/-- The assertions on the operations that park a packet. -/
def RouterAssertion.guarded : RouterAssertion → Prop
  | .arpRequestEnqueued | .packetParked => True
  | _ => False

/-- `route` fails in an assertion about parking exactly when it gets as far as parking and that
fails. -/
theorem routePacket_parking_fails_iff {interface : Fin interfaces} {buffer : NetBuffDesc} :
    (∃ assertion : RouterAssertion, assertion.guarded ∧
      routePacket config router interface buffer = .error assertion) ↔
      ∃ nextHop outInterface,
        routeVerdict config router interface (router.data interface buffer.ioOrOffset) =
          .forward nextHop outInterface ∧
        router.dropsUnparkable outInterface nextHop = false ∧
        unresolved (router.arpEntry outInterface nextHop) = true ∧
        ¬ router.ParkingSucceeds outInterface nextHop (buffer.tagged interface) := by
  have notReturned : ∀ (other : Router interfaces) (assertion : RouterAssertion),
      assertion.guarded → other.returnBuffer interface buffer ≠ .error assertion := by
    rintro other assertion guarded failed
    rw [(returnBuffer_eq_error.mp failed).1] at guarded
    exact guarded
  have notTransmitted : ∀ (other : Router interfaces) macAddr outInterface
      (assertion : RouterAssertion), assertion.guarded →
      transmitPacket config other (buffer.tagged interface) macAddr outInterface ≠
        .error assertion := by
    rintro other macAddr outInterface assertion guarded failed
    rw [(transmitPacket_eq_error.mp failed).1] at guarded
    exact guarded
  have notWeb : ∀ (other : Router interfaces) (assertion : RouterAssertion), assertion.guarded →
      other.transmitWebserver (buffer.tagged interface) ≠ .error assertion := by
    rintro other assertion guarded failed
    rw [(transmitWebserver_eq_error.mp failed).1] at guarded
    exact guarded
  rw [routePacket_eq_carryOut]
  generalize routeVerdict config router interface (router.data interface buffer.ioOrOffset) =
    verdict
  constructor
  · rintro ⟨assertion, guarded, failed⟩
    cases verdict with
    | drop => exact absurd failed (notReturned _ _ guarded)
    | mine =>
      simp only [carryOut, routeToFirewall] at failed
      split_ifs at failed
      · exact absurd failed (notWeb _ _ guarded)
      · exact absurd failed (notReturned _ _ guarded)
      · exact absurd failed (notReturned _ _ guarded)
    | expired | noRoute nextHop | subnetBroadcast => exact absurd failed (notReturned _ _ guarded)
    | forward nextHop outInterface =>
      by_cases parks : router.dropsUnparkable outInterface nextHop = false ∧
          unresolved (router.arpEntry outInterface nextHop) = true
      · refine ⟨nextHop, outInterface, rfl, parks.1, parks.2, fun succeeds => ?_⟩
        have succeedsThen :
            (router.decremented interface buffer).ParkingSucceeds outInterface nextHop
            (buffer.tagged interface) := ⟨succeeds.child, succeeds.request, succeeds.root⟩
        obtain ⟨next, done⟩ := parkPacket_isOk_iff.mpr succeedsThen
        have parked : carryOut config router interface buffer (.forward nextHop outInterface) =
            (router.decremented interface buffer).parkPacket (buffer.tagged interface) nextHop
              outInterface := forwardPacket_parks parks.1 parks.2
        rw [parked, done] at failed
        cases failed
      · have outcome := @forwardPacket_not_parked _ config (router.decremented interface buffer)
          interface outInterface buffer nextHop parks
        rcases outcome with ⟨icmpQueue, notifyIcmp, same⟩ | ⟨macAddr, same⟩
        · exact absurd (same.symm.trans failed) (notReturned _ _ guarded)
        · exact absurd (same.symm.trans failed) (notTransmitted _ _ _ _ guarded)
  · rintro ⟨nextHop, outInterface, rfl, passes, waits, fails⟩
    have parked : carryOut config router interface buffer (.forward nextHop outInterface) =
        (router.decremented interface buffer).parkPacket (buffer.tagged interface) nextHop
          outInterface := forwardPacket_parks passes waits
    rw [parked]
    cases done : (router.decremented interface buffer).parkPacket (buffer.tagged interface) nextHop
        outInterface with
    | ok next =>
      have succeeds := parkPacket_isOk_iff.mp ⟨next, done⟩
      exact absurd ⟨succeeds.child, succeeds.request, succeeds.root⟩ fails
    | error assertion =>
      refine ⟨assertion, ?_, rfl⟩
      rcases parkPacket_error done with rfl | rfl
      · trivial
      · trivial

/-- Whatever the packet, the ARP table, the waiting structure and the request queue hold: the guard
makes the operations behind it succeed, and none of the three assertions fails, exactly when the
packet is not for a next hop whose request the guard overlooks. -/
theorem parking_guard_covers_iff (config : FwRouterConfig interfaces) (router : Router interfaces)
    (interface : Fin interfaces) (buffer : NetBuffDesc) :
    ((∀ nextHop outInterface,
        routeVerdict config router interface (router.data interface buffer.ioOrOffset) =
          .forward nextHop outInterface →
        router.dropsUnparkable outInterface nextHop = false →
        unresolved (router.arpEntry outInterface nextHop) = true →
        router.ParkingSucceeds outInterface nextHop (buffer.tagged interface)) ∧
      ∀ assertion : RouterAssertion, assertion.guarded →
        routePacket config router interface buffer ≠ .error assertion) ↔
      ∀ nextHop outInterface,
        routeVerdict config router interface (router.data interface buffer.ioOrOffset) =
          .forward nextHop outInterface →
        ¬ router.RequestOverlooked outInterface nextHop := by
  constructor
  · rintro ⟨covers, _⟩ nextHop outInterface verdict
    exact guard_covers_iff.mp (covers nextHop outInterface verdict)
  · intro notOverlooked
    have covers : ∀ nextHop outInterface,
        routeVerdict config router interface (router.data interface buffer.ioOrOffset) =
          .forward nextHop outInterface →
        router.dropsUnparkable outInterface nextHop = false →
        unresolved (router.arpEntry outInterface nextHop) = true →
        router.ParkingSucceeds outInterface nextHop (buffer.tagged interface) :=
      fun nextHop outInterface verdict =>
        guard_covers_iff.mpr (notOverlooked nextHop outInterface verdict)
    refine ⟨covers, fun assertion guarded failed => ?_⟩
    obtain ⟨nextHop, outInterface, verdict, passes, waits, fails⟩ :=
      routePacket_parking_fails_iff.mp ⟨assertion, guarded, failed⟩
    exact fails (covers nextHop outInterface verdict passes waits)

/-! ### A request that is overlooked -/

/-- A TTL of 64 and the destination 10.0.0.3. -/
def otherPacket : Packet := Function.update forwardedPacket 33 3

def otherBuffer : NetBuffDesc := { ioOrOffset := 1, len := 0 }

/-- The webserver asks for 10.0.0.3, which takes the last transmit buffer of the requester. A packet
for 10.0.0.2 is parked, and its request stays in the queue while two unsolicited replies from there
have the packet sent. Then a packet for 10.0.0.3 arrives. -/
def overlookedRequest : List (ArpRoutingEvent sampleArpRouting) :=
  [.requester 0 (.request ⟨1, by decide⟩ (addressRequest 0x0300000a)),
    .requester 0 (.processRequest ⟨1, by decide⟩),
    .router (.arrive 0 sampleFilter sampleBuffer forwardedPacket),
    .router (.route 0 sampleFilter),
    .requester 0 (.processResponse replyPacket),
    .requester 0 (.processResponse replyPacket),
    .router (.respond 0),
    .router (.arrive 0 sampleFilter otherBuffer otherPacket)]

theorem otherPacket_verdict {router : Router 1} (routes : router.routingTable = sampleRoutes) :
    routeVerdict (sampleConfig 1) router 0 otherPacket = .forward 0x0300000a 0 := by
  have route : fwRoutingFindRoute router.routingTable otherPacket.dstIp =
      ((0x0300000a : UInt32T), some ((24 : UInt8T), (0 : Fin 1))) := by
    rw [routes]
    rfl
  unfold routeVerdict
  rw [if_neg (by decide), if_neg (by decide), if_neg (by decide), if_neg (by decide), route]
  dsimp only
  rw [if_neg (by decide), if_neg (by decide)]

theorem overlookedRequest_run :
    ∃ state, Run ArpRoutingStep
        (sample [FwArpEntry.zeroed, FwArpEntry.zeroed]) overlookedRequest state ∧
      fwDequeue (state.system.router.fwFilters 0 sampleFilter) =
        some (otherBuffer, FwQueue.empty 1) ∧
      state.system.router.data 0 1 = otherPacket ∧
      state.system.router.routingTable = sampleRoutes ∧
      state.system.router.RequestOverlooked 0 0x0300000a := by
  obtain ⟨asked, pending, arrived, parked, replied, answered, resolved, state, ask, process, arrive,
      route, reply, again, respond, last, dequeued, data, routes, overlooked⟩ :
      ∃ asked pending : ArpRouting sampleArpRouting, ∃ arrived parked : RouterSystem 1,
      ∃ replied answered : ArpRouting sampleArpRouting, ∃ resolved state : RouterSystem 1,
        ArpRoutingStep (sample [FwArpEntry.zeroed, FwArpEntry.zeroed])
          (.requester 0 (.request ⟨1, by decide⟩ (addressRequest 0x0300000a))) asked ∧
        ArpRoutingStep asked (.requester 0 (.processRequest ⟨1, by decide⟩)) pending ∧
        RouterStep (sampleConfig 1) pending.system
          (.arrive 0 sampleFilter sampleBuffer forwardedPacket) arrived ∧
        RouterStep (sampleConfig 1) arrived (.route 0 sampleFilter) parked ∧
        ArpRoutingStep { pending with system := parked }
          (.requester 0 (.processResponse replyPacket)) replied ∧
        ArpRoutingStep replied (.requester 0 (.processResponse replyPacket)) answered ∧
        RouterStep (sampleConfig 1) answered.system (.respond 0) resolved ∧
        RouterStep (sampleConfig 1) resolved (.arrive 0 sampleFilter otherBuffer otherPacket) state ∧
        fwDequeue (state.router.fwFilters 0 sampleFilter) = some (otherBuffer, FwQueue.empty 1) ∧
        state.router.data 0 1 = otherPacket ∧ state.router.routingTable = sampleRoutes ∧
        state.router.RequestOverlooked 0 0x0300000a := by
    refine ⟨_, _, _, _, _, _, _, _, rfl, rfl, rfl,
      route_unresolvedPacket rfl rfl rfl rfl rfl rfl, rfl,
      rfl, rfl, rfl, rfl, rfl, rfl, ?_⟩
    exact ⟨⟨_, rfl, rfl⟩, rfl, rfl, rfl⟩
  have run₁ := (Run.single ask).snoc process
  have run₂ := (run₁.snoc (step_router rfl arrive)).snoc (step_router rfl route)
  have run₃ := (run₂.snoc reply).snoc again
  have run₄ := (run₃.snoc (step_router rfl respond)).snoc (step_router rfl last)
  exact ⟨_, run₄, dequeued, data, routes, overlooked⟩

/-- The packet for 10.0.0.3 passes the guard, whose operations then fail: the router stops in an
assertion. -/
theorem guard_overlooks_request :
    ∃ state, Run ArpRoutingStep
        (sample [FwArpEntry.zeroed, FwArpEntry.zeroed]) overlookedRequest state ∧
      state.system.router.data 0 1 = otherPacket ∧
      routeVerdict (sampleConfig 1) state.system.router 0 otherPacket = .forward 0x0300000a 0 ∧
      state.system.router.dropsUnparkable 0 0x0300000a = false ∧
      unresolved (state.system.router.arpEntry 0 0x0300000a) = true ∧
      ¬ state.system.router.ParkingSucceeds 0 0x0300000a (otherBuffer.tagged 0) ∧
      ∃ assertion : RouterAssertion, assertion.guarded ∧
        state.system.perform (sampleConfig 1) (.route 0 sampleFilter) = some (.error assertion) := by
  obtain ⟨state, run, dequeued, data, routes, overlooked⟩ := overlookedRequest_run
  have verdict := otherPacket_verdict routes
  have notCovered : ¬ (state.system.router.dropsUnparkable 0 0x0300000a = false →
      unresolved (state.system.router.arpEntry 0 0x0300000a) = true →
      state.system.router.ParkingSucceeds 0 0x0300000a (otherBuffer.tagged 0)) :=
    mt guard_covers_iff.mp (not_not.mpr overlooked)
  rw [Classical.not_imp, Classical.not_imp] at notCovered
  obtain ⟨passes, waits, notParked⟩ := notCovered
  refine ⟨state, run, data, verdict, passes, waits, notParked, ?_⟩
  rw [RouterSystem.perform_route dequeued]
  have failed : ∃ assertion : RouterAssertion, assertion.guarded ∧
      routePacket (sampleConfig 1) (state.system.router.setFilter 0 sampleFilter (FwQueue.empty 1)) 0
        otherBuffer = .error assertion := by
    refine routePacket_parking_fails_iff.mpr ⟨0x0300000a, 0, ?_, passes, waits, ?_⟩
    · rw [← verdict, ← data]
      rfl
    · exact fun succeeds => notParked ⟨succeeds.child, succeeds.request, succeeds.root⟩
  obtain ⟨assertion, guarded, failed⟩ := failed
  rw [failed]
  exact ⟨assertion, guarded, rfl⟩

end LionsOS.Firewall
