/-
This file runs the router together with the ARP requesters of its interfaces.
A requester and the router share its table and one pair of queues; the other
pairs belong to the requester's other clients. What has to hold of the two
together is that every address the router waits for is one it will still hear
about: its request is in the queue, or recorded in the table, or answered. The
router keeps this by itself. The requester keeps it except where it drops what
it should tell the router.
-/

import LionsOS.Firewall.ArpObligation
import LionsOS.Firewall.RouterForward

open Function

namespace LionsOS.Firewall

open StepRun List RouterSystem FwArpEntry

variable {interfaces : Nat} {ip : UInt32T}

variable {system : RouterSystem interfaces}

/-! ### What the router waits for -/

namespace Router

variable {outInterface other : Fin interfaces} {response : FwArpRequest}

/-- The router will still hear about an address: its request is in the request queue, or a
pending entry names the router, or the response is in the response queue. -/
def AnswerComing (router : Router interfaces) (outInterface : Fin interfaces) (client : Nat)
    (ip : UInt32T) : Prop :=
  (∃ request ∈ (router.arpReqQueue outInterface).entries, request.ip = ip) ∨
    (∃ entry ∈ router.arpTable outInterface,
      entry.state = .pending ∧ entry.ip = ip ∧ entry.hasClient client) ∨
    ∃ response ∈ (router.arpRespQueue outInterface).entries, response.ip = ip

/-- Every address with a root in a waiting structure is one the router will still hear about. -/
def Awaited (client : Fin interfaces → Nat) (router : Router interfaces) : Prop :=
  ∀ outInterface ip, (router.pktWaitingQueue outInterface).IsWaitingFor ip →
    router.AnswerComing outInterface (client outInterface) ip

variable {config : FwRouterConfig interfaces} {router next : Router interfaces}
  {client : Fin interfaces → Nat}

/-! ### The router's own rounds -/

theorem parkPacket_awaited (sound : router.WaitingSound) (awaited : router.Awaited client)
    {buffer : FwBuffDesc interfaces} {nextHop : UInt32T}
    (done : router.parkPacket buffer nextHop outInterface = .ok next) : next.Awaited client := by
  intro other ip waits
  rcases parkPacket_ok done with ⟨root, waiting, found, pushed, rfl⟩ | ⟨request, queue, waiting,
    absent, sameIp, entries, _, pushed, rfl⟩
  · refine awaited other ip ?_
    by_cases here : other = outInterface
    · subst here
      obtain ⟨_, before, buffers, after, contents, left⟩ :=
        (sound other).pushChild found pushed
      simp only [update_self, PktsWaiting.isWaitingFor_iff, left] at waits
      rw [PktsWaiting.isWaitingFor_iff, contents]
      simpa only [map_append, map_cons] using waits
    · simpa only [update_of_ne here] using waits
  · by_cases here : other = outInterface
    · subst here
      have contents := ((sound other).push absent pushed).2
      simp only [update_self] at waits
      obtain ⟨entry, member, rfl⟩ := waits
      rw [contents, mem_cons] at member
      unfold AnswerComing
      simp only [update_self, entries]
      rcases member with rfl | old
      · exact Or.inl ⟨request, by simp, sameIp⟩
      · rcases awaited other entry.1 ⟨entry, old, rfl⟩ with ⟨asked, inside, same⟩ | later
        · exact Or.inl ⟨asked, mem_append_left _ inside, same⟩
        · exact Or.inr later
    · simp only [update_of_ne here] at waits
      unfold AnswerComing
      simp only [update_of_ne here]
      exact awaited other ip waits

theorem routePacket_awaited (sound : router.WaitingSound) (awaited : router.Awaited client)
    {interface : Fin interfaces} {buffer : NetBuffDesc}
    (done : routePacket config router interface buffer = .ok next) : next.Awaited client := by
  obtain ⟨routed, outcome, result⟩ := routeOutcome_of_eq done
  cases outcome with
  | returned icmpQueue notifyIcmp packet =>
    obtain ⟨queue, _, _, rfl⟩ := returnBuffer_ok result
    exact awaited
  | webserver forWebserver =>
    obtain ⟨queue, _, _, rfl⟩ := transmitWebserver_ok result
    exact awaited
  | parked outInterface nextHop alive mayPark =>
    refine parkPacket_awaited ?_ ?_ result
    · exact sound
    · exact awaited
  | transmitted outInterface macAddr forNextHop =>
    obtain ⟨queue, _, _, rfl⟩ := transmitPacket_ok result
    exact awaited

/-- Visiting the waiting buffers leaves the ARP table and queues alone. -/
theorem visitAll_keepsArp {buffers : List (FwBuffDesc interfaces)}
    (done : buffers.foldlM (visitWaiting config outInterface response) router = .ok next) :
    next.arpReqQueue = router.arpReqQueue ∧ next.arpTable = router.arpTable ∧
      next.arpRespQueue = router.arpRespQueue := by
  induction buffers generalizing router with
  | nil =>
    cases done
    exact ⟨rfl, rfl, rfl⟩
  | cons buffer rest inductionHypothesis =>
    obtain ⟨middle, visited, done⟩ := Fallible.foldlM_cons_eq_ok done
    have later := inductionHypothesis done
    unfold visitWaiting at visited
    split_ifs at visited
    · obtain ⟨_, _, _, rfl⟩ := returnBuffer_ok visited
      exact later
    · obtain ⟨_, _, _, rfl⟩ := transmitPacket_ok visited
      exact later

theorem processArpResponse_keepsArp (sound : router.WaitingSound)
    (done : processArpResponse config router outInterface response = .ok next) :
    next.arpReqQueue = router.arpReqQueue ∧ next.arpTable = router.arpTable ∧
      next.arpRespQueue = router.arpRespQueue := by
  rcases processArpResponse_ok (sound outInterface) done with
    ⟨_, rfl⟩ | ⟨root, resolved, _, visited, rfl⟩
  · exact ⟨rfl, rfl, rfl⟩
  · have keeps := visitAll_keepsArp visited
    exact keeps

/-- After a response its address is not waited for, and what was waited for before was already
waited for. -/
theorem Responds.waits (sound : router.WaitingSound)
    (responds : Responds outInterface response router next)
    (waits : (next.pktWaitingQueue other).IsWaitingFor ip) :
    (router.pktWaitingQueue other).IsWaitingFor ip ∧ (other = outInterface → response.ip ≠ ip) := by
  cases responds with
  | notWaiting absent same =>
    subst same
    refine ⟨waits, ?_⟩
    rintro rfl rfl
    exact absent waits
  | resolved before after buffers waiting left others moved =>
    by_cases here : other = outInterface
    · subst here
      have distinct := (sound other).addresses_nodup
      rw [waiting, map_append, map_cons, nodup_middle, nodup_cons] at distinct
      rw [PktsWaiting.isWaitingFor_iff, left, map_append] at waits
      refine ⟨?_, fun _ same => distinct.1 (same ▸ waits)⟩
      rw [PktsWaiting.isWaitingFor_iff, waiting, map_append]
      exact mem_append.mpr ((mem_append.mp waits).imp_right (mem_cons_of_mem _))
    · rw [others other here] at waits
      exact ⟨waits, fun same => absurd same here⟩

/-- An address other than the response's is still one the router will hear about. -/
theorem AnswerComing.of_dequeue {queue : FwQueue FwArpRequest} {number : Nat}
    (entries : (router.arpRespQueue outInterface).entries = response :: queue.entries)
    (different : other = outInterface → response.ip ≠ ip)
    (coming : router.AnswerComing other number ip) :
    AnswerComing { router with
      arpRespQueue := update router.arpRespQueue outInterface queue } other number ip := by
  refine coming.imp_right (Or.imp_right ?_)
  rintro ⟨answer, member, rfl⟩
  by_cases here : other = outInterface
  · subst here
    rw [entries, mem_cons] at member
    refine ⟨answer, ?_, rfl⟩
    simp only [update_self]
    exact member.resolve_left fun same => different rfl (same ▸ rfl)
  · refine ⟨answer, ?_, rfl⟩
    simp only [update_of_ne here]
    exact member

end Router

/-- Whether an event is one of an ARP requester. -/
def RouterEvent.ofRequester : RouterEvent interfaces → Bool
  | .arp .. => true
  | _ => false

/-- Everything but the requester leaves each waiting address one the router will still hear
about. -/
theorem RouterSystem.step_awaited {config : FwRouterConfig interfaces}
    {next : RouterSystem interfaces} {event : RouterEvent interfaces}
    {client : Fin interfaces → Nat} (balanced : system.Balanced)
    (awaited : system.router.Awaited client) (own : event.ofRequester = false)
    (step : RouterStep config system event next) : next.router.Awaited client := by
  have sound := balanced.waitingSound
  obtain ⟨result, performed, outcome⟩ := performs_of_eq step
  cases performed with
  | route buffer queue entries capacity =>
    obtain ⟨router, routed, rfl⟩ := Fallible.map_eq_ok outcome
    refine Router.routePacket_awaited ?_ ?_ routed
    · exact sound
    · exact awaited
  | @respond outInterface response queue dequeued =>
    obtain ⟨router, resolved, rfl⟩ := Fallible.map_eq_ok outcome
    have entries := (fwDequeue_eq_some.mp dequeued).1
    have dequeuedSound : Router.WaitingSound { system.router with
        arpRespQueue := update system.router.arpRespQueue outInterface queue } := sound
    have responds := (Router.processArpResponse_responds dequeuedSound resolved).1
    obtain ⟨requests, table, responses⟩ :=
      Router.processArpResponse_keepsArp dequeuedSound resolved
    intro other ip waits
    obtain ⟨waited, different⟩ := responds.waits dequeuedSound waits
    have coming := (awaited other ip waited).of_dequeue entries different
    unfold Router.AnswerComing
    rw [requests, table, responses]
    exact coming
  | arp => cases own
  | _ =>
    cases outcome
    exact awaited

/-! ### The router and its requesters -/

structure FwArpRoutingConfig (interfaces : Nat) where
  router : FwRouterConfig interfaces
  requester : Fin interfaces → FwArpRequesterConfig
  /-- The client of an interface's requester that the router is. -/
  client : (outInterface : Fin interfaces) → Fin (requester outInterface).numArpClients

/-- The router among its components, and the requester of each interface. What a requester shares
with the router is kept with the router. -/
structure ArpRouting (config : FwArpRoutingConfig interfaces) where
  system : RouterSystem interfaces
  unshared : (outInterface : Fin interfaces) → ArpRequester (config.requester outInterface)

open ArpRouting

inductive ArpRoutingEvent (config : FwArpRoutingConfig interfaces) where
  /-- The router or another of its components acts. -/
  | router (event : RouterEvent interfaces)
  /-- A requester or another of its clients acts, or the network does. -/
  | requester (outInterface : Fin interfaces) (event : ArpEvent (config.requester outInterface))

/-- Whether an event is a client's use of its queues. -/
def ArpEvent.ofClient {config : FwArpRequesterConfig} (client : Fin config.numArpClients) :
    ArpEvent config → Bool
  | .request sender _ => sender == client
  | .take sender => sender == client
  | _ => false

namespace ArpRouting

variable {config : FwArpRoutingConfig interfaces}

/-- The requester of an interface, with what it shares with the router. -/
def requesterOf (state : ArpRouting config) (outInterface : Fin interfaces) :
    ArpRequester (config.requester outInterface) :=
  { state.unshared outInterface with
    arpTable := state.system.router.arpTable outInterface
    arpReqQueue := update (state.unshared outInterface).arpReqQueue
      (config.client outInterface) (state.system.router.arpReqQueue outInterface)
    arpRespQueue := update (state.unshared outInterface).arpRespQueue
      (config.client outInterface) (state.system.router.arpRespQueue outInterface) }

/-- The state after the requester of an interface has changed. -/
def store (state : ArpRouting config) (outInterface : Fin interfaces)
    (requester : ArpRequester (config.requester outInterface)) : ArpRouting config where
  system := { state.system with
    router := { state.system.router with
      arpTable := update state.system.router.arpTable outInterface requester.arpTable
      arpReqQueue := update state.system.router.arpReqQueue outInterface
        (requester.arpReqQueue (config.client outInterface))
      arpRespQueue := update state.system.router.arpRespQueue outInterface
        (requester.arpRespQueue (config.client outInterface)) } }
  unshared := update state.unshared outInterface requester

/-- What an event does, `none` when it cannot happen. The router's own use of the shared queues is
part of its rounds. -/
def perform (state : ArpRouting config) : ArpRoutingEvent config → Option (ArpRouting config)
  | .router event =>
    if event.ofRequester then none
    else (state.system.next config.router event).map fun system => { state with system }
  | .requester outInterface event =>
    if event.ofClient (config.client outInterface) then none
    else ((state.requesterOf outInterface).act event).map (state.store outInterface)

end ArpRouting

def ArpRoutingStep {config : FwArpRoutingConfig interfaces} (state : ArpRouting config)
    (event : ArpRoutingEvent config) (next : ArpRouting config) : Prop :=
  state.perform event = some next

namespace ArpRouting

variable {config : FwArpRoutingConfig interfaces} {state next : ArpRouting config}
  {event : ArpRoutingEvent config} (outInterface : Fin interfaces)

theorem requesterOf_store (state : ArpRouting config)
    (requester : ArpRequester (config.requester outInterface)) :
    (state.store outInterface requester).requesterOf outInterface = requester := by
  unfold requesterOf store
  simp only [update_self, update_eq_self]

/-- The steps there are. -/
inductive Moves (state : ArpRouting config) : ArpRoutingEvent config → ArpRouting config → Prop
  | router {event : RouterEvent interfaces} (foreign : event.ofRequester = false)
    {system : RouterSystem interfaces}
    (systemStep : RouterStep config.router state.system event system) :
    Moves state (.router event) { state with system }
  | requester {outInterface : Fin interfaces} {event : ArpEvent (config.requester outInterface)}
    (foreign : event.ofClient (config.client outInterface) = false)
    {requester : ArpRequester (config.requester outInterface)}
    (acted : (state.requesterOf outInterface).act event = some requester) :
    Moves state (.requester outInterface event) (state.store outInterface requester)

theorem moves (step : ArpRoutingStep state event next) : state.Moves event next := by
  cases event with
  | router event =>
    simp only [ArpRoutingStep, perform, Option.ite_none_left_eq_some, Option.map_eq_some_iff,
      Bool.not_eq_true] at step
    obtain ⟨foreign, system, computed, rfl⟩ := step
    exact Moves.router foreign (step_of_next _ _ _ computed)
  | requester outInterface event =>
    simp only [ArpRoutingStep, perform, Option.ite_none_left_eq_some, Option.map_eq_some_iff,
      Bool.not_eq_true] at step
    obtain ⟨foreign, requester, acted, rfl⟩ := step
    exact Moves.requester foreign acted

theorem step_system (step : ArpRoutingStep state event next) :
    ∃ systemEvent, RouterStep config.router state.system systemEvent next.system := by
  cases moves step with
  | router foreign systemStep => exact ⟨_, systemStep⟩
  | @requester outInterface event foreign requester acted =>
    exact ⟨.arp outInterface _ _ _, rfl⟩

theorem step_balanced (balanced : state.system.Balanced) (step : ArpRoutingStep state event next) :
    next.system.Balanced := by
  obtain ⟨systemEvent, systemStep⟩ := step_system step
  exact (RouterSystem.step_balanced balanced systemStep).1

theorem step_router {event : RouterEvent interfaces} (foreign : event.ofRequester = false)
    (systemStep : RouterStep config.router state.system event system) :
    ArpRoutingStep state (.router event) { state with system } := by
  simp only [ArpRoutingStep, perform, foreign, RouterSystem.next]
  rw [show state.system.perform config.router event = some (.ok system) from systemStep]
  rfl

/-! ### What is coming -/

/-- Every address with a root in a waiting structure is one the router will still hear about. -/
def Awaited (state : ArpRouting config) : Prop :=
  state.system.router.Awaited fun outInterface => config.client outInterface

theorem answerComing_iff (state : ArpRouting config) (ip : UInt32T) :
    state.system.router.AnswerComing outInterface (config.client outInterface) ip ↔
      0 < (state.requesterOf outInterface).tokens (config.client outInterface) ip := by
  have counted : ∀ messages : List FwArpRequest,
      0 < countFor ip messages ↔ ∃ message ∈ messages, message.ip = ip := fun messages => by
    rw [countFor, countP_pos_iff]
    simp only [beq_iff_eq]
  unfold Router.AnswerComing ArpRequester.tokens ArpRequester.answers ArpRequester.promised
  rw [Nat.add_pos_iff_pos_or_pos, Nat.add_pos_iff_pos_or_pos, counted, counted, countP_pos_iff]
  simp only [requesterOf, update_self, owes, Bool.and_eq_true, beq_iff_eq, and_assoc]
  exact or_congr_right or_comm

/-- Whenever the requester drops what it should tell the router about an address that is waited
for, it has the same to tell another time. -/
def Harmless (state : ArpRouting config) : ArpRoutingEvent config → Prop
  | .router _ => True
  | .requester outInterface event => ∀ ip,
      (state.system.router.pktWaitingQueue outInterface).IsWaitingFor ip →
      (state.requesterOf outInterface).Drops (config.client outInterface) ip event →
        1 < (state.requesterOf outInterface).tokens (config.client outInterface) ip

/-- A step of a requester keeps what the router waits for coming exactly when it is harmless. -/
theorem requester_awaited_iff (awaited : state.Awaited)
    {event : ArpEvent (config.requester outInterface)}
    {requester : ArpRequester (config.requester outInterface)}
    (foreign : event.ofClient (config.client outInterface) = false)
    (acted : (state.requesterOf outInterface).act event = some requester) :
    (state.store outInterface requester).Awaited ↔
      state.Harmless (.requester outInterface event) := by
  have notTaken : event ≠ .take (config.client outInterface) := by
    rintro rfl
    simp [ArpEvent.ofClient] at foreign
  have passesOn : ∀ ip, (state.requesterOf outInterface).PassesOn (config.client outInterface) ip
      event requester := fun ip => ArpRequester.act_passesOn acted notTaken
  have coming : ∀ ip, (state.store outInterface requester).system.router.AnswerComing outInterface
      (config.client outInterface) ip ↔
      0 < requester.tokens (config.client outInterface) ip := fun ip => by
    rw [answerComing_iff, requesterOf_store]
  constructor
  · intro awaitedNext ip waits drops
    have left := (coming ip).mp (awaitedNext outInterface ip waits)
    rw [← (passesOn ip).drops drops]
    exact Nat.succ_lt_succ left
  · intro harmless other ip waits
    by_cases here : other = outInterface
    · subst here
      refine (coming ip).mpr ?_
      by_cases drops : (state.requesterOf other).Drops (config.client other) ip event
      · have twice := harmless ip waits drops
        rw [← (passesOn ip).drops drops] at twice
        exact Nat.lt_of_succ_lt_succ twice
      · exact (passesOn ip).keeps drops ((answerComing_iff other state ip).mp (awaited other ip waits))
    · have before := awaited other ip waits
      unfold Router.AnswerComing at before ⊢
      simp only [store, update_of_ne here]
      exact before

theorem step_awaited_iff (balanced : state.system.Balanced) (awaited : state.Awaited)
    (step : ArpRoutingStep state event next) : next.Awaited ↔ state.Harmless event := by
  cases moves step with
  | router foreign systemStep =>
    exact iff_of_true (step_awaited balanced awaited foreign systemStep) trivial
  | @requester outInterface event foreign requester acted =>
    exact requester_awaited_iff outInterface awaited foreign acted

/-! ### Whole runs -/

theorem initial_awaited (initial : state.system.Initial) : state.Awaited := by
  intro outInterface ip waits
  obtain ⟨packets, capacity, started⟩ := initial.waiting outInterface
  rw [started, PktsWaiting.isWaitingFor_iff] at waits
  cases waits

end ArpRouting

/-- However the router and the requesters interleave, and whatever the requesters' tables and queues
held, each waiting address is one the router will still hear about, in every state of a run, exactly
when in each step in which a requester drops what it should tell the router about a waiting address
(a request that finds the table full, or a response that finds the router's queue full) it has the
same to tell another time. -/
theorem waiting_addresses_heard_about_iff {config : FwArpRoutingConfig interfaces}
    {start : ArpRouting config} (initial : start.system.Initial)
    {events : List (ArpRoutingEvent config)} {state : ArpRouting config} :
    Run (Within ArpRouting.Awaited ArpRoutingStep) start events state ↔
      Run (Guarded ArpRouting.Harmless ArpRoutingStep) start events state := by
  refine run_within_iff_guarded (fun state : ArpRouting config => state.system.Balanced)
    initial.balanced (initial_awaited initial) ?_ ?_
  · intro state event next balanced step
    exact step_balanced balanced step
  · intro state event next balanced awaited step
    exact step_awaited_iff balanced awaited step

/-! ### A full table -/

def sampleArpRouting : FwArpRoutingConfig 1 where
  router := sampleConfig 1
  requester _ := { numArpClients := 2, few := by decide }
  client _ := ⟨0, by decide⟩

/-- A router that has just started, next to a requester with this table. -/
def ArpRouting.sample (table : List FwArpEntry) : ArpRouting sampleArpRouting where
  system := { idle 1 1 with
    router := { (idle 1 1).router with
      routingTable := sampleRoutes
      arpTable := fun _ => table } }
  unshared _ :=
    { arpTable := []
      arpReqQueue := fun _ => FwQueue.empty 1
      arpRespQueue := fun _ => FwQueue.empty 1
      txFree := 1
      transmitted := false
      notifyClient := fun _ => false
      ticksToFlush := arpTicksPerFlush }

theorem ArpRouting.sample_initial (table : List FwArpEntry) :
    (sample table).system.Initial where
  fwFilters _ _ := rfl
  rxFree _ := rfl
  txActive _ := rfl
  webserver := rfl
  waiting _ := ⟨_, _, rfl⟩
  dequeued := rfl
  taken := rfl
  held := rfl

/-- The packet to 10.0.0.2 is parked if the table has nothing about that address. -/
theorem route_unresolvedPacket {system : RouterSystem 1} {queue : FwQueue NetBuffDesc}
    (dequeued : fwDequeue (system.router.fwFilters 0 sampleFilter) = some (sampleBuffer, queue))
    (data : system.router.data 0 0 = forwardedPacket)
    (routes : system.router.routingTable = sampleRoutes)
    (unresolved : system.router.arpEntry 0 0x0200000a = none)
    (room : pktWaitingFull (system.router.pktWaitingQueue 0) = false)
    (requestRoom : fwQueueFull (system.router.arpReqQueue 0) = false) :
    system.perform (sampleConfig 1) (.route 0 sampleFilter) =
      some ((((system.router.setFilter 0 sampleFilter queue).setPacket 0 0
          (system.router.data 0 0).decremented).parkPacket (sampleBuffer.tagged 0) 0x0200000a 0).map
        fun router =>
          { system with router, dequeued := system.dequeued + {sampleBuffer.tagged 0} }) := by
  have routable : Router.Routable
      ((system.router.setFilter 0 sampleFilter queue).data 0 sampleBuffer.ioOrOffset) :=
    data ▸ ⟨by decide, by decide⟩
  have dstIp : (system.router.data 0 0).dstIp = 0x0200000a :=
    data ▸ (by decide : forwardedPacket.dstIp = 0x0200000a)
  have notMine : (system.router.data 0 0).dstIp ≠ ((sampleConfig 1).interface 0).ip := by
    rw [dstIp]
    decide
  have alive : 1 < (system.router.data 0 0).ttl := data ▸ (by decide : 1 < forwardedPacket.ttl)
  have route : fwRoutingFindRoute system.router.routingTable (system.router.data 0 0).dstIp =
      ((0x0200000a : UInt32T), some ((24 : UInt8T), (0 : Fin 1))) := by
    rw [routes, dstIp]
    rfl
  have notBroadcast : ~~~ subnetMask (24 : UInt8T) ||| (0x0200000a : UInt32T) ≠
      (system.router.data 0 0).dstIp := by
    rw [dstIp]
    decide
  have forwarded : Router.routePacket (sampleConfig 1)
      (system.router.setFilter 0 sampleFilter queue) 0 sampleBuffer =
      Router.forwardPacket (sampleConfig 1)
        ((system.router.setFilter 0 sampleFilter queue).setPacket 0 0
          (system.router.data 0 0).decremented) 0 sampleBuffer 0x0200000a 0 :=
    routable.routePacket_eq notMine alive route (by decide) notBroadcast
  have parked : Router.forwardPacket (sampleConfig 1)
      ((system.router.setFilter 0 sampleFilter queue).setPacket 0 0
        (system.router.data 0 0).decremented) 0 sampleBuffer 0x0200000a 0 =
      ((system.router.setFilter 0 sampleFilter queue).setPacket 0 0
        (system.router.data 0 0).decremented).parkPacket (sampleBuffer.tagged 0) 0x0200000a 0 :=
    Router.forwardPacket_unresolved unresolved room requestRoom
  rw [perform_route dequeued, forwarded, parked]

/-- A table of one entry, which is about 10.0.0.3. -/
def fullArpTable : List FwArpEntry :=
  [{ state := .reachable, ip := 0x0300000a, macAddr := fun _ => 1, client := 1, numRetries := 0 }]

/-- A packet is parked, and its request is processed. -/
def parkedRequest : List (ArpRoutingEvent sampleArpRouting) :=
  [.router (.arrive 0 sampleFilter sampleBuffer forwardedPacket), .router (.route 0 sampleFilter),
    .requester 0 (.processRequest ⟨0, by decide⟩)]

theorem run_parkedRequest {table : List FwArpEntry} {arrived parked : RouterSystem 1}
    {state : ArpRouting sampleArpRouting}
    {Condition : ArpRouting sampleArpRouting → ArpRoutingEvent sampleArpRouting → Prop}
    (routing : ∀ state event, Condition state (.router event))
    (arrive : RouterStep (sampleConfig 1) (sample table).system
      (.arrive 0 sampleFilter sampleBuffer forwardedPacket) arrived)
    (route : RouterStep (sampleConfig 1) arrived (.route 0 sampleFilter) parked)
    (requesting : Condition { sample table with system := parked }
      (.requester 0 (.processRequest ⟨0, by decide⟩)))
    (process : ArpRoutingStep { sample table with system := parked }
      (.requester 0 (.processRequest ⟨0, by decide⟩)) state) :
    Run (Guarded Condition ArpRoutingStep) (sample table) parkedRequest state := by
  have run₁ : Run (Guarded Condition ArpRoutingStep) (sample table)
      [.router (.arrive 0 sampleFilter sampleBuffer forwardedPacket)]
      { sample table with system := arrived } :=
    Run.single ⟨routing _ _, step_router rfl arrive⟩
  have run₂ : Run (Guarded Condition ArpRoutingStep) (sample table)
      [.router (.arrive 0 sampleFilter sampleBuffer forwardedPacket),
        .router (.route 0 sampleFilter)]
      { sample table with system := parked } :=
    run₁.snoc ⟨routing _ _, step_router rfl route⟩
  exact run₂.snoc ⟨requesting, process⟩

/-- If the table is full when the request is processed, the request is forgotten, and the packet
waits for an address nobody will tell the router about. -/
theorem full_table_forgets_request :
    (sample fullArpTable).system.Initial ∧
      ∃ state, Run ArpRoutingStep (sample fullArpTable) parkedRequest state ∧
        (state.system.router.pktWaitingQueue 0).IsWaitingFor 0x0200000a ∧
        ¬ state.system.router.AnswerComing 0 0 0x0200000a := by
  obtain ⟨arrived, parked, state, arrive, route, process, waits, forgotten⟩ :
      ∃ arrived parked state, RouterStep (sampleConfig 1) (sample fullArpTable).system
          (.arrive 0 sampleFilter sampleBuffer forwardedPacket) arrived ∧
        RouterStep (sampleConfig 1) arrived (.route 0 sampleFilter) parked ∧
        ArpRoutingStep { sample fullArpTable with system := parked }
          (.requester 0 (.processRequest ⟨0, by decide⟩)) state ∧
        (state.system.router.pktWaitingQueue 0).IsWaitingFor 0x0200000a ∧
        ¬ state.system.router.AnswerComing 0 0 0x0200000a := by
    refine ⟨_, _, _, rfl, route_unresolvedPacket rfl rfl rfl rfl rfl rfl, rfl, ?_, ?_⟩
    · exact ⟨_, mem_singleton_self _, rfl⟩
    · rintro (⟨request, member, _⟩ | ⟨entry, member, pending, _⟩ | ⟨response, member, _⟩)
      · exact not_mem_nil member
      · rw [mem_singleton.mp member] at pending
        cases pending
      · exact not_mem_nil member
  have run : Run (Guarded (fun _ _ => True) ArpRoutingStep) (sample fullArpTable)
      parkedRequest state := run_parkedRequest (fun _ _ => trivial) arrive route trivial process
  exact ⟨sample_initial _, state, run.of_guarded, waits, forgotten⟩

/-- A request that is recorded. -/
theorem waiting_addresses_heard_about_iff_recorded :
    ∃ state, Run (Within ArpRouting.Awaited ArpRoutingStep) (sample [zeroed]) parkedRequest state ∧
      (state.system.router.pktWaitingQueue 0).IsWaitingFor 0x0200000a := by
  obtain ⟨arrived, parked, state, arrive, route, process, requests, table, waits⟩ :
      ∃ arrived parked state, RouterStep (sampleConfig 1) (sample [zeroed]).system
          (.arrive 0 sampleFilter sampleBuffer forwardedPacket) arrived ∧
        RouterStep (sampleConfig 1) arrived (.route 0 sampleFilter) parked ∧
        ArpRoutingStep { sample [zeroed] with system := parked }
          (.requester 0 (.processRequest ⟨0, by decide⟩)) state ∧
        (parked.router.arpReqQueue 0).entries.head? = some sampleRequest ∧
        parked.router.arpTable 0 = [zeroed] ∧
        (state.system.router.pktWaitingQueue 0).IsWaitingFor 0x0200000a := by
    refine ⟨_, _, _, rfl, route_unresolvedPacket rfl rfl rfl rfl rfl rfl, rfl, ?_, ?_, ?_⟩
    · rfl
    · rfl
    · exact ⟨_, mem_singleton_self _, rfl⟩
  have harmless : ArpRouting.Harmless { sample [zeroed] with system := parked }
      (.requester 0 (.processRequest ⟨0, by decide⟩)) := by
    rintro ip _ ⟨_, request, first, rfl, unanswerable⟩
    have known : request = sampleRequest := Option.some.inj (first.symm.trans requests)
    have sameTable : (requesterOf { sample [zeroed] with
      system := parked } 0).arpTable = [zeroed] := table
    unfold ArpRequester.Unanswerable at unanswerable
    rw [sameTable] at unanswerable
    exact absurd rfl (unanswerable _ (mem_singleton_self _))
  exact ⟨state, (waiting_addresses_heard_about_iff (sample_initial _)).mpr
    (run_parkedRequest (fun _ _ => trivial) arrive route harmless process), waits⟩

end LionsOS.Firewall
