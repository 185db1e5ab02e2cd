/-
This file puts the router among the components it shares queues with. They act
in any order: filters hand over received buffers, the ARP requester, the virtual
network components, the webserver and the ICMP module consume and answer, and
routes and settings change. The router's own rounds are those of `route` and
`process_arp_waiting`, which are shown to be runs of them. Four fields only
record what happened: the buffers the router has dequeued, those consumers have
taken out of its queues, those still with a consumer, and the bytes with which a
buffer was received.
-/

import LionsOS.Firewall.RouterCases
import LionsOS.Lib.Places
import LionsOS.Lib.Runs

open Function

namespace LionsOS.Firewall

open StepRun

variable {interfaces : Nat} {rounds : Nat}

variable {config : FwRouterConfig interfaces} {filter : Fin fwMaxFilters}
  {interface other outInterface : Fin interfaces} {buffer : NetBuffDesc}
  {queue : FwQueue NetBuffDesc} {router routed : Router interfaces}

/-! ### The system -/

structure RouterSystem (interfaces : Nat) where
  router : Router interfaces
  dequeued : Multiset (FwBuffDesc interfaces)
  taken : Multiset (FwBuffDesc interfaces)
  held : Multiset (FwBuffDesc interfaces)
  received : Fin interfaces → Nat → Packet

variable {system : RouterSystem interfaces}
  {outcome : Except RouterAssertion (RouterSystem interfaces)}

inductive RouterEvent (interfaces : Nat) where
  /-- A filter hands over a received buffer. -/
  | arrive (interface : Fin interfaces) (filter : Fin fwMaxFilters) (buffer : NetBuffDesc)
    (packet : Packet)
  /-- The router routes one packet. -/
  | route (interface : Fin interfaces) (filter : Fin fwMaxFilters)
  /-- The router processes one ARP response. -/
  | respond (outInterface : Fin interfaces)
  /-- The virtualiser takes a free buffer. -/
  | takeRxFree (interface : Fin interfaces)
  /-- The virtualiser takes a packet to transmit. -/
  | takeTxActive (outInterface : Fin interfaces)
  | takeWebserver
  /-- A consumer frees a buffer it holds. -/
  | giveBack (buffer : FwBuffDesc interfaces)
  | takeIcmp
  /-- The ARP requester acts on its table and queues. -/
  | arp (outInterface : Fin interfaces) (table : List FwArpEntry)
    (requests responses : FwQueue FwArpRequest)
  | changeRoutes (table : List (FwRoutingEntry interfaces))
  | changePing (interface : Fin interfaces) (enabled : Bool)

variable {event : RouterEvent interfaces}

namespace RouterSystem

/-- A filter hands over a buffer with the bytes it was received with, if its queue has room. -/
def arrive (system : RouterSystem interfaces) (interface : Fin interfaces)
    (filter : Fin fwMaxFilters) (buffer : NetBuffDesc) (packet : Packet) :
    Option (RouterSystem interfaces) :=
  (fwEnqueue (system.router.fwFilters interface filter) buffer).map fun queue =>
    { system with
      router := { system.router.setPacket interface buffer.ioOrOffset packet with
        fwFilters := update system.router.fwFilters interface
          (update (system.router.fwFilters interface) filter queue) }
      received := update system.received interface
        (update (system.received interface) buffer.ioOrOffset packet) }

def takeRxFree (system : RouterSystem interfaces) (interface : Fin interfaces) :
    Option (RouterSystem interfaces) :=
  (fwDequeue (system.router.rxFree interface)).map fun (buffer, queue) =>
    { system with
      router := { system.router with
        rxFree := update system.router.rxFree interface queue }
      taken := system.taken + {buffer.tagged interface} }

def takeTxActive (system : RouterSystem interfaces) (outInterface : Fin interfaces) :
    Option (RouterSystem interfaces) :=
  (fwDequeue (system.router.txActive outInterface)).map fun (buffer, queue) =>
    { system with
      router := { system.router with
        txActive := update system.router.txActive outInterface queue }
      taken := system.taken + {buffer}
      held := system.held + {buffer} }

def takeWebserver (system : RouterSystem interfaces) : Option (RouterSystem interfaces) :=
  (fwDequeue system.router.webserver).map fun (buffer, queue) =>
    { system with
      router := { system.router with webserver := queue }
      taken := system.taken + {buffer}
      held := system.held + {buffer} }

def takeIcmp (system : RouterSystem interfaces) : Option (RouterSystem interfaces) :=
  (fwDequeue system.router.icmpQueue).map fun (_, queue) =>
    { system with router := { system.router with icmpQueue := queue } }

/-- What an event does: `none` when it cannot happen, an assertion when the router stops. -/
def perform (config : FwRouterConfig interfaces) (system : RouterSystem interfaces) :
    RouterEvent interfaces → Option (Except RouterAssertion (RouterSystem interfaces))
  | .arrive interface filter buffer packet =>
    (system.arrive interface filter buffer packet).map Except.ok
  | .route interface filter =>
    (system.router.routeNext config interface filter).map fun (buffer, routed) =>
      routed.map fun router =>
        { system with router, dequeued := system.dequeued + {buffer.tagged interface} }
  | .respond outInterface =>
    (system.router.respondNext config outInterface).map fun (_, resolved) =>
      resolved.map fun router => { system with router }
  | .takeRxFree interface => (system.takeRxFree interface).map Except.ok
  | .takeTxActive outInterface => (system.takeTxActive outInterface).map Except.ok
  | .takeWebserver => system.takeWebserver.map Except.ok
  | .giveBack buffer =>
    if buffer ∈ system.held then some (.ok { system with held := system.held.erase buffer })
    else none
  | .takeIcmp => system.takeIcmp.map Except.ok
  | .arp outInterface table requests responses =>
    some (.ok { system with
      router := { system.router with
        arpTable := update system.router.arpTable outInterface table
        arpReqQueue := update system.router.arpReqQueue outInterface requests
        arpRespQueue := update system.router.arpRespQueue outInterface responses } })
  | .changeRoutes table =>
    some (.ok { system with router := { system.router with routingTable := table } })
  | .changePing interface enabled =>
    some (.ok { system with
      router := { system.router with
        pingResponseEnabled :=
          update system.router.pingResponseEnabled interface enabled } })

end RouterSystem

/-- An event in which no assertion fails. -/
def RouterStep (config : FwRouterConfig interfaces) (system : RouterSystem interfaces)
    (event : RouterEvent interfaces) (next : RouterSystem interfaces) : Prop :=
  system.perform config event = some (.ok next)

/-- The next system, unless the event cannot happen or an assertion fails. -/
def RouterSystem.next (config : FwRouterConfig interfaces) (system : RouterSystem interfaces)
    (event : RouterEvent interfaces) : Option (RouterSystem interfaces) :=
  (system.perform config event).bind Except.toOption

theorem RouterSystem.step_of_next (system : RouterSystem interfaces)
    (event : RouterEvent interfaces) (result : RouterSystem interfaces)
    (computed : result ∈ system.next config event) : RouterStep config system event result := by
  obtain ⟨outcome, performed, succeeded⟩ := Option.bind_eq_some_iff.mp computed
  cases outcome with
  | error assertion => cases succeeded
  | ok value =>
    cases succeeded
    exact performed

/-! ### What an event can do -/

/-- The router with another filter queue. -/
def Router.setFilter (router : Router interfaces) (interface : Fin interfaces)
    (filter : Fin fwMaxFilters) (queue : FwQueue NetBuffDesc) : Router interfaces :=
  { router with
    fwFilters := update router.fwFilters interface
      (update (router.fwFilters interface) filter queue) }

open Router

theorem Router.setFilter_self (router : Router interfaces) (interface : Fin interfaces)
    (filter : Fin fwMaxFilters) (queue : FwQueue NetBuffDesc) :
    (router.setFilter interface filter queue).fwFilters interface filter = queue :=
  update_at_self router.fwFilters queue

theorem Router.setFilter_of_ne (router : Router interfaces) {otherFilter : Fin fwMaxFilters}
    (queue : FwQueue NetBuffDesc) (different : (other, otherFilter) ≠ (interface, filter)) :
    (router.setFilter interface filter queue).fwFilters other otherFilter =
      router.fwFilters other otherFilter :=
  update_at_of_ne router.fwFilters queue different

/-- The events that can happen, each with its outcome. -/
inductive Performs (config : FwRouterConfig interfaces) (system : RouterSystem interfaces) :
    RouterEvent interfaces → Except RouterAssertion (RouterSystem interfaces) → Prop
  | arrive {interface : Fin interfaces} {filter : Fin fwMaxFilters} {buffer : NetBuffDesc}
    {packet : Packet} (queue : FwQueue NetBuffDesc)
    (entries : queue.entries = (system.router.fwFilters interface filter).entries ++ [buffer])
    (capacity : queue.capacity = (system.router.fwFilters interface filter).capacity) :
    Performs config system (.arrive interface filter buffer packet) (.ok
      { system with
        router := (system.router.setPacket interface buffer.ioOrOffset packet).setFilter interface
          filter queue
        received := update system.received interface
          (update (system.received interface) buffer.ioOrOffset packet) })
  | route {interface : Fin interfaces} {filter : Fin fwMaxFilters} (buffer : NetBuffDesc)
    (queue : FwQueue NetBuffDesc)
    (entries : (system.router.fwFilters interface filter).entries = buffer :: queue.entries)
    (capacity : queue.capacity = (system.router.fwFilters interface filter).capacity) :
    Performs config system (.route interface filter)
      ((routePacket config (system.router.setFilter interface filter queue) interface
        buffer).map fun router =>
          { system with router, dequeued := system.dequeued + {buffer.tagged interface} })
  | respond {outInterface : Fin interfaces} (response : FwArpRequest)
    (queue : FwQueue FwArpRequest)
    (dequeued : fwDequeue (system.router.arpRespQueue outInterface) = some (response, queue)) :
    Performs config system (.respond outInterface)
      ((processArpResponse config { system.router with
          arpRespQueue := update system.router.arpRespQueue outInterface queue }
        outInterface response).map fun router => { system with router })
  | takeRxFree {interface : Fin interfaces} (buffer : NetBuffDesc) (queue : FwQueue NetBuffDesc)
    (entries : (system.router.rxFree interface).entries = buffer :: queue.entries)
    (capacity : queue.capacity = (system.router.rxFree interface).capacity) :
    Performs config system (.takeRxFree interface) (.ok
      { system with
        router := { system.router with
          rxFree := update system.router.rxFree interface queue }
        taken := system.taken + {buffer.tagged interface} })
  | takeTxActive {outInterface : Fin interfaces} (buffer : FwBuffDesc interfaces)
    (queue : FwQueue (FwBuffDesc interfaces))
    (entries : (system.router.txActive outInterface).entries = buffer :: queue.entries)
    (capacity : queue.capacity = (system.router.txActive outInterface).capacity) :
    Performs config system (.takeTxActive outInterface) (.ok
      { system with
        router := { system.router with
          txActive := update system.router.txActive outInterface queue }
        taken := system.taken + {buffer}
        held := system.held + {buffer} })
  | takeWebserver (buffer : FwBuffDesc interfaces) (queue : FwQueue (FwBuffDesc interfaces))
    (entries : system.router.webserver.entries = buffer :: queue.entries)
    (capacity : queue.capacity = system.router.webserver.capacity) :
    Performs config system .takeWebserver (.ok
      { system with
        router := { system.router with webserver := queue }
        taken := system.taken + {buffer}
        held := system.held + {buffer} })
  | giveBack {buffer : FwBuffDesc interfaces} (member : buffer ∈ system.held) :
    Performs config system (.giveBack buffer) (.ok
      { system with held := system.held.erase buffer })
  | takeIcmp (queue : FwQueue (IcmpReq interfaces)) :
    Performs config system .takeIcmp (.ok
      { system with router := { system.router with icmpQueue := queue } })
  | arp {outInterface : Fin interfaces} {table : List FwArpEntry}
    {requests responses : FwQueue FwArpRequest} :
    Performs config system (.arp outInterface table requests responses) (.ok
      { system with
        router := { system.router with
          arpTable := update system.router.arpTable outInterface table
          arpReqQueue := update system.router.arpReqQueue outInterface requests
          arpRespQueue := update system.router.arpRespQueue outInterface responses } })
  | changeRoutes {table : List (FwRoutingEntry interfaces)} :
    Performs config system (.changeRoutes table) (.ok
      { system with router := { system.router with routingTable := table } })
  | changePing {interface : Fin interfaces} {enabled : Bool} :
    Performs config system (.changePing interface enabled) (.ok
      { system with
        router := { system.router with
          pingResponseEnabled :=
            update system.router.pingResponseEnabled interface enabled } })

/-- Routing a buffer that is at the head of its queue. -/
theorem RouterSystem.perform_route
    (dequeued : fwDequeue (system.router.fwFilters interface filter) = some (buffer, queue)) :
    system.perform config (.route interface filter) =
      some ((routePacket config (system.router.setFilter interface filter queue) interface
        buffer).map fun router =>
          { system with router, dequeued := system.dequeued + {buffer.tagged interface} }) := by
  simp only [perform, routeNext, dequeued]
  rfl

theorem RouterSystem.performs (performed : system.perform config event = some outcome) :
    Performs config system event outcome := by
  cases event with
  | arrive interface filter buffer packet =>
    simp only [perform, arrive, Option.map_map, Option.map_eq_some_iff] at performed
    obtain ⟨queue, enqueued, rfl⟩ := performed
    obtain ⟨entries, capacity⟩ := fwEnqueue_eq_some.mp enqueued
    exact Performs.arrive queue entries capacity
  | route interface filter =>
    simp only [perform, Router.routeNext, Option.map_map, Option.map_eq_some_iff] at performed
    obtain ⟨⟨buffer, queue⟩, dequeued, rfl⟩ := performed
    obtain ⟨entries, capacity⟩ := fwDequeue_eq_some.mp dequeued
    exact Performs.route buffer queue entries capacity
  | respond outInterface =>
    simp only [perform, Router.respondNext, Option.map_map, Option.map_eq_some_iff] at performed
    obtain ⟨⟨response, queue⟩, dequeued, rfl⟩ := performed
    exact Performs.respond response queue dequeued
  | takeRxFree interface =>
    simp only [perform, takeRxFree, Option.map_map, Option.map_eq_some_iff] at performed
    obtain ⟨⟨buffer, queue⟩, dequeued, rfl⟩ := performed
    obtain ⟨entries, capacity⟩ := fwDequeue_eq_some.mp dequeued
    exact Performs.takeRxFree buffer queue entries capacity
  | takeTxActive outInterface =>
    simp only [perform, takeTxActive, Option.map_map, Option.map_eq_some_iff] at performed
    obtain ⟨⟨buffer, queue⟩, dequeued, rfl⟩ := performed
    obtain ⟨entries, capacity⟩ := fwDequeue_eq_some.mp dequeued
    exact Performs.takeTxActive buffer queue entries capacity
  | takeWebserver =>
    simp only [perform, takeWebserver, Option.map_map, Option.map_eq_some_iff] at performed
    obtain ⟨⟨buffer, queue⟩, dequeued, rfl⟩ := performed
    obtain ⟨entries, capacity⟩ := fwDequeue_eq_some.mp dequeued
    exact Performs.takeWebserver buffer queue entries capacity
  | giveBack buffer =>
    simp only [perform, Option.ite_none_right_eq_some, Option.some.injEq] at performed
    obtain ⟨member, rfl⟩ := performed
    exact Performs.giveBack member
  | takeIcmp =>
    simp only [perform, takeIcmp, Option.map_map, Option.map_eq_some_iff] at performed
    obtain ⟨⟨request, queue⟩, _, rfl⟩ := performed
    exact Performs.takeIcmp queue
  | arp outInterface table requests responses =>
    cases performed
    exact Performs.arp
  | changeRoutes table =>
    cases performed
    exact Performs.changeRoutes
  | changePing interface enabled =>
    cases performed
    exact Performs.changePing

theorem RouterSystem.performs_of_eq (performed : system.perform config event = some outcome) :
    ∃ result, Performs config system event result ∧ result = outcome :=
  ⟨outcome, performs performed, rfl⟩

/-! ### The loops of the router are runs -/

/-- Another state of the router, reached by dequeuing more buffers. -/
def RouterSystem.advanced (system : RouterSystem interfaces) (router : Router interfaces)
    (more : Multiset (FwBuffDesc interfaces)) : RouterSystem interfaces :=
  { system with router, dequeued := system.dequeued + more }

/-- The router gets from one state to another by rounds of its own. -/
def RoutedBy (config : FwRouterConfig interfaces) (router routed : Router interfaces) : Prop :=
  ∀ system : RouterSystem interfaces, system.router = router → ∃ events more,
    Run (RouterStep config) system events (system.advanced routed more)

theorem RoutedBy.refl (config : FwRouterConfig interfaces) (router : Router interfaces) :
    RoutedBy config router router := by
  rintro system rfl
  refine ⟨[], 0, ?_⟩
  rw [RouterSystem.advanced, add_zero]
  exact Run.nil

theorem RoutedBy.trans {middle : Router interfaces} (first : RoutedBy config router middle)
    (second : RoutedBy config middle routed) : RoutedBy config router routed := by
  intro system same
  obtain ⟨events, more, run⟩ := first system same
  obtain ⟨events', more', run'⟩ := second (system.advanced middle more) rfl
  refine ⟨events ++ events', more + more', run.trans ?_⟩
  have result : (system.advanced middle more).advanced routed more' =
      system.advanced routed (more + more') := by
    simp only [RouterSystem.advanced, add_assoc]
  exact result ▸ run'

theorem RoutedBy.foldlM {Item : Type}
    {round : Router interfaces → Item → Except RouterAssertion (Router interfaces)}
    (rounds : ∀ router item routed, round router item = .ok routed → RoutedBy config router routed)
    {items : List Item} (done : items.foldlM round router = .ok routed) :
    RoutedBy config router routed := by
  induction items generalizing router with
  | nil =>
    cases done
    exact RoutedBy.refl config _
  | cons item rest inductionHypothesis =>
    obtain ⟨middle, first, done⟩ := Fallible.foldlM_cons_eq_ok done
    exact (rounds router item middle first).trans (inductionHypothesis done)

theorem routeFilter_routedBy (done : routeFilter config interface filter rounds router = .ok routed) :
    RoutedBy config router routed := by
  induction rounds generalizing router with
  | zero =>
    cases done
    exact RoutedBy.refl config _
  | succ rounds inductionHypothesis =>
    rw [routeFilter] at done
    split at done
    case h_1 =>
      cases done
      exact RoutedBy.refl config _
    case h_2 => cases done
    case h_3 buffer middle next =>
      refine RoutedBy.trans ?_ (inductionHypothesis done)
      rintro system rfl
      refine ⟨[.route interface filter], {buffer.tagged interface}, Run.single ?_⟩
      show (system.router.routeNext config interface filter).map _ = _
      rw [next]
      rfl

/-- A call of `route` that returns is a run of the router's rounds. -/
theorem route_routedBy (done : route config router = .ok routed) : RoutedBy config router routed :=
  RoutedBy.foldlM (fun _ _ _ doneInterface =>
    RoutedBy.foldlM (fun _ _ _ doneFilter => routeFilter_routedBy doneFilter) doneInterface) done

theorem processResponsesFor_routedBy
    (done : processResponsesFor config outInterface rounds router = .ok routed) :
    RoutedBy config router routed := by
  induction rounds generalizing router with
  | zero =>
    cases done
    exact RoutedBy.refl config _
  | succ rounds inductionHypothesis =>
    rw [processResponsesFor] at done
    split at done
    case h_1 =>
      cases done
      exact RoutedBy.refl config _
    case h_2 => cases done
    case h_3 response middle next =>
      refine RoutedBy.trans ?_ (inductionHypothesis done)
      rintro system rfl
      refine ⟨[.respond outInterface], 0, Run.single ?_⟩
      show (system.router.respondNext config outInterface).map _ = _
      rw [next, RouterSystem.advanced, add_zero]
      rfl

/-- A call of `process_arp_waiting` that returns is a run of the router's rounds. -/
theorem processArpWaiting_routedBy
    (done : processArpWaiting config router outInterface = .ok routed) :
    RoutedBy config router routed :=
  processResponsesFor_routedBy done

end LionsOS.Firewall
