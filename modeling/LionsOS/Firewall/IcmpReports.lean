/-
This file says which requests to the ICMP module each round of the router tries
to enqueue, each together with the packet whose bytes it is filled in from. A
request for which the queue has no room is lost, so what is enqueued is the part
of these reports that there is room for.
-/

import LionsOS.Firewall.PacketFilter
import LionsOS.Firewall.RouterPlaces
import LionsOS.Firewall.RouterVerdict

namespace LionsOS.Firewall

variable {interfaces : Nat}

variable {outInterface : Fin interfaces}

/-! ### Requests and the packets they are about -/

/-- A request to the ICMP module, with the packet it was filled in from. -/
structure IcmpReport (interfaces : Nat) where
  req : IcmpReq interfaces
  packet : Packet

/-- The types of the error messages that the firewall sends. -/
def icmpErrorSent (type : UInt8T) : Bool :=
  type == icmpDestUnreachable || type == icmpTtlExceed

/-- The report of an error about a packet. -/
def errorReport (type code : UInt8T) (packet : Packet) (outInterface : Fin interfaces) :
    IcmpReport interfaces where
  req :=
    { type, code, outInterface
      ethHdr := packet.copy 0 Packet.ipv4HdrOffset
      ipHdr := packet.copy Packet.ipv4HdrOffset ipv4HdrLenMin
      data := .dest (packet.copyZeroPadded (transportLayerOffset packet).toNat
        (icmpSrcDataToCopy packet) fwIcmpSrcDataLen) }
  packet

theorem icmpEnqueueError_eq (icmpQueue : FwQueue (IcmpReq interfaces)) (type code : UInt8T)
    (packet : Packet) (outInterface : Fin interfaces) :
    (icmpEnqueueError icmpQueue type code packet outInterface).2 =
      fwEnqueueOrDrop icmpQueue (errorReport type code packet outInterface).req := rfl

/-- The reply to a ping: what an empty queue holds once the reply is enqueued there. -/
def echoReports (packet : Packet) (outInterface : Fin interfaces) : List (IcmpReport interfaces) :=
  (icmpEnqueueEchoReply (FwQueue.empty 1) packet outInterface).2.entries.map fun req =>
    { req, packet }

theorem echoReports_type {packet : Packet} {report : IcmpReport interfaces}
    (member : report ∈ echoReports packet outInterface) : report.req.type = icmpEchoReply := by
  have same : report = { req := _, packet } := List.mem_singleton.mp member
  rw [same]

/-- The report of a packet to an unreachable destination. -/
def unreachableReport (nextHop : UInt32T) (packet : Packet) (outInterface : Fin interfaces) :
    IcmpReport interfaces :=
  errorReport icmpDestUnreachable
    (if nextHop = packet.dstIp then icmpDestHostUnreachable else icmpDestNetUnreachable) packet
    outInterface

/-- Enqueue what there is room for. -/
def enqueueReports (icmpQueue : FwQueue (IcmpReq interfaces))
    (reports : List (IcmpReport interfaces)) : FwQueue (IcmpReq interfaces) :=
  reports.foldl (fun queue report => fwEnqueueOrDrop queue report.req) icmpQueue

/-- How many requests a queue has room for. -/
def FwQueue.room {Entry : Type} (queue : FwQueue Entry) : Nat :=
  queue.capacity - queue.entries.length

theorem enqueueReports_entries (icmpQueue : FwQueue (IcmpReq interfaces))
    (reports : List (IcmpReport interfaces)) :
    (enqueueReports icmpQueue reports).entries =
      icmpQueue.entries ++ (reports.take icmpQueue.room).map IcmpReport.req := by
  induction reports generalizing icmpQueue with
  | nil => simp [enqueueReports]
  | cons report rest inductionHypothesis =>
    show (enqueueReports (fwEnqueueOrDrop icmpQueue report.req) rest).entries = _
    rw [inductionHypothesis]
    rcases fwEnqueueOrDrop_cases icmpQueue report.req with ⟨same, full⟩ | ⟨entries, capacity⟩
    · rw [same, FwQueue.room, full, Nat.sub_self]
      rfl
    · have bounded := (fwEnqueueOrDrop icmpQueue report.req).bounded
      have room : icmpQueue.room = (fwEnqueueOrDrop icmpQueue report.req).room + 1 := by
        rw [entries, List.length_append, List.length_singleton] at bounded
        rw [FwQueue.room, FwQueue.room, entries, List.length_append, List.length_singleton]
        omega
      rw [entries, room, List.take_succ_cons, List.map_cons, List.append_assoc,
        List.singleton_append]

namespace Router

variable {config : FwRouterConfig interfaces} {router next : Router interfaces}

variable {buffer : NetBuffDesc} {interface : Fin interfaces} {response : FwArpRequest}

/-! ### What the rounds report -/

/-- A packet to the firewall is a ping that is replied to. -/
def RepliesToPing (router : Router interfaces) (interface : Fin interfaces)
    (packet : Packet) : Prop :=
  packet.protocol = ipv4ProtoIcmp ∧ packet (transportLayerOffset packet).toNat = icmpEchoReq ∧
    router.pingResponseEnabled interface

instance (router : Router interfaces) (interface : Fin interfaces) (packet : Packet) :
    Decidable (RepliesToPing router interface packet) :=
  inferInstanceAs (Decidable (_ ∧ _ ∧ _))

/-- What routing a packet reports. -/
def routeReports (config : FwRouterConfig interfaces) (router : Router interfaces)
    (interface : Fin interfaces) (buffer : NetBuffDesc) : List (IcmpReport interfaces) :=
  let packet := router.data interface buffer.ioOrOffset
  match routeVerdict config router interface packet with
  | .expired => [errorReport icmpTtlExceed icmpTimeExceededTtl packet interface]
  | .noRoute nextHop => [unreachableReport nextHop packet.decremented interface]
  | .forward nextHop outInterface =>
    if (router.arpEntry outInterface nextHop).any fun arp => arp.state == .unreachable then
      [unreachableReport nextHop packet.decremented interface]
    else []
  | .mine => if RepliesToPing router interface packet then echoReports packet interface else []
  | .drop | .subnetBroadcast => []

/-- What an ARP response reports: the buffers that wait for an unreachable address. -/
def respondReports (router : Router interfaces) (outInterface : Fin interfaces)
    (response : FwArpRequest) : List (IcmpReport interfaces) :=
  match pktWaitingFindNode (router.pktWaitingQueue outInterface) response.ip with
  | none => []
  | some root =>
    if response.state = .unreachable then
      ((router.pktWaitingQueue outInterface).buffersOf root).map fun buffer =>
        unreachableReport response.ip (router.data buffer.interface buffer.offset) buffer.interface
    else []

theorem returnBuffer_icmpQueue (done : router.returnBuffer interface buffer = .ok next) :
    next.icmpQueue = router.icmpQueue := by
  obtain ⟨queue, _, _, rfl⟩ := returnBuffer_ok done
  rfl

/-- Routing a packet to the firewall reports a ping at most. A ping is no webserver traffic. -/
theorem routeToFirewall_icmpQueue (done : router.routeToFirewall interface buffer = .ok next) :
    next.icmpQueue = enqueueReports router.icmpQueue
      (if RepliesToPing router interface (router.data interface buffer.ioOrOffset) then
        echoReports (router.data interface buffer.ioOrOffset) interface
      else []) := by
  simp only [routeToFirewall] at done
  split_ifs at done with web ping
  · obtain ⟨queue, _, _, rfl⟩ := transmitWebserver_ok done
    have notPing : ¬ RepliesToPing router interface (router.data interface buffer.ioOrOffset) :=
      fun ping => absurd (web.1.symm.trans ping.1) (by decide)
    rw [if_neg notPing]
    rfl
  · have replies : RepliesToPing router interface (router.data interface buffer.ioOrOffset) := ping
    rw [if_pos replies]
    exact returnBuffer_icmpQueue done
  · have silent : ¬ RepliesToPing router interface (router.data interface buffer.ioOrOffset) := ping
    rw [if_neg silent]
    exact returnBuffer_icmpQueue done

theorem forwardPacket_icmpQueue {nextHop : UInt32T}
    (done : forwardPacket config router interface buffer nextHop outInterface = .ok next) :
    next.icmpQueue = enqueueReports router.icmpQueue
      (if (router.arpEntry outInterface nextHop).any fun arp => arp.state == .unreachable then
        [unreachableReport nextHop (router.data interface buffer.ioOrOffset) interface]
      else []) := by
  unfold forwardPacket at done
  have parked : ∀ {buffer : FwBuffDesc interfaces},
      router.parkPacket buffer nextHop outInterface = .ok next →
      next.icmpQueue = router.icmpQueue := by
    intro buffer parked
    rcases parkPacket_ok parked with ⟨_, _, _, _, rfl⟩ | ⟨_, _, _, _, _, _, _, _, rfl⟩
    · rfl
    · rfl
  cases entry : router.arpEntry outInterface nextHop with
  | none =>
    rw [entry] at done
    dsimp only at done
    split_ifs at done
    · exact returnBuffer_icmpQueue done
    · exact parked done
  | some arp =>
    rw [entry] at done
    dsimp only at done
    simp only [Option.any_some, beq_iff_eq]
    split_ifs at done with unreachable pending full
    · rw [if_pos unreachable]
      exact returnBuffer_icmpQueue done
    · rw [if_neg unreachable]
      exact returnBuffer_icmpQueue done
    · rw [if_neg unreachable]
      exact parked done
    · rw [if_neg unreachable]
      obtain ⟨queue, _, _, rfl⟩ := transmitPacket_ok done
      rfl

theorem routePacket_icmpQueue (done : routePacket config router interface buffer = .ok next) :
    next.icmpQueue = enqueueReports router.icmpQueue
      (routeReports config router interface buffer) := by
  rw [routePacket_eq_carryOut] at done
  unfold routeReports
  dsimp only
  cases verdict : routeVerdict config router interface
      (router.data interface buffer.ioOrOffset) with
  | drop =>
    rw [verdict] at done
    exact returnBuffer_icmpQueue done
  | mine =>
    rw [verdict] at done
    exact routeToFirewall_icmpQueue done
  | expired =>
    rw [verdict] at done
    exact returnBuffer_icmpQueue done
  | noRoute nextHop =>
    rw [verdict] at done
    refine (returnBuffer_icmpQueue done).trans ?_
    simp only [decremented, enqueueIcmpUnreachable, setPacket, NetBuffDesc.tagged,
      Function.update_self]
    rfl
  | subnetBroadcast =>
    rw [verdict] at done
    have same := @returnBuffer_icmpQueue _ (router.decremented interface buffer) next _ _ done
    exact same
  | forward nextHop outInterface =>
    rw [verdict] at done
    refine (forwardPacket_icmpQueue done).trans ?_
    simp only [decremented, setPacket, Function.update_self]
    rfl

theorem visitAll_icmpQueue {buffers : List (FwBuffDesc interfaces)}
    (done : buffers.foldlM (visitWaiting config outInterface response) router = .ok next) :
    next.icmpQueue = enqueueReports router.icmpQueue
      (if response.state = .unreachable then
        buffers.map fun buffer =>
          unreachableReport response.ip (router.data buffer.interface buffer.offset)
            buffer.interface
      else []) := by
  induction buffers generalizing router with
  | nil =>
    cases done
    simp [enqueueReports]
  | cons buffer rest inductionHypothesis =>
    obtain ⟨middle, visited, done⟩ := Fallible.foldlM_cons_eq_ok done
    rw [inductionHypothesis done]
    unfold visitWaiting at visited
    split_ifs at visited with unreachable
    · obtain ⟨queue, _, _, rfl⟩ := returnBuffer_ok visited
      rw [if_pos unreachable, if_pos unreachable]
      rfl
    · obtain ⟨queue, _, _, rfl⟩ := transmitPacket_ok visited
      rw [if_neg unreachable, if_neg unreachable]
      rfl

theorem processArpResponse_icmpQueue (sound : router.WaitingSound)
    (done : processArpResponse config router outInterface response = .ok next) :
    next.icmpQueue = enqueueReports router.icmpQueue
      (router.respondReports outInterface response) := by
  unfold respondReports
  rcases processArpResponse_ok (sound outInterface) done with
    ⟨absent, rfl⟩ | ⟨root, resolved, found, visited, rfl⟩
  · rw [absent]
    rfl
  · have reported := visitAll_icmpQueue visited
    rw [found]
    exact reported

end Router

end LionsOS.Firewall
