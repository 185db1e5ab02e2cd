/-
This file puts the router, the filters and the ICMP module together, to follow
what the error messages that leave the firewall are about. Next to each queue of
requests it records the packets they were filled in from, and next to each frame
the packet it answers.
-/

import LionsOS.Firewall.IcmpModule
import LionsOS.Firewall.IcmpReports

open Function

namespace LionsOS.Firewall

open StepRun

variable {interfaces : Nat}

/-! ### The system -/

/-- How the firewall is put together. -/
structure IcmpSystemConfig (interfaces : Nat) where
  router : FwRouterConfig interfaces
  icmpModule : FwIcmpModuleConfig interfaces
  actions : FilterProtocol → FilterActions
  /-- The clients of each receive virtualiser, the filters among them. -/
  rxClients : Fin interfaces → List RxClient
  rxClient : Fin interfaces → FilterProtocol → Nat
  isFilter : ∀ interface protocol,
    (rxClients interface)[rxClient interface protocol]? = some protocol.rxClient
  /-- The queue to the router of each filter. -/
  filterIndex : FilterProtocol → Fin fwMaxFilters

def IcmpSystemConfig.filter (config : IcmpSystemConfig interfaces) (interface : Fin interfaces) :
    FwFilterConfig interfaces :=
  { interface, networkHwHasChecksum := config.icmpModule.networkHwHasChecksum }

structure IcmpSystem (interfaces : Nat) where
  routing : RouterSystem interfaces
  filters : FilterProtocol → FilterGroup interfaces
  filterIcmpQueue : FilterProtocol → Fin interfaces → FwQueue (IcmpReq interfaces)
  /-- The requests in the router's queue, with the packets they are about. -/
  routerReports : List (IcmpReport interfaces)
  filterReports : FilterProtocol → Fin interfaces → List (IcmpReport interfaces)
  /-- The frames sent, each with the packet it answers. -/
  emitted : List (IcmpFrame interfaces × Option Packet)

inductive IcmpEvent (interfaces : Nat) where
  /-- A filter gets a packet and filters it. -/
  | receive (protocol : FilterProtocol) (interface : Fin interfaces) (buffer : NetBuffDesc)
    (packet : Packet)
  /-- The webserver calls a filter. -/
  | callFilter (protocol : FilterProtocol) (interface : Fin interfaces) (call : ProtectedCall)
  /-- The router or a component around it acts. -/
  | router (event : RouterEvent interfaces)
  /-- The ICMP module processes a request of the router. -/
  | generateRouter (free : Option Packet)
  /-- The ICMP module processes a request of a filter. -/
  | generateFilter (protocol : FilterProtocol) (interface : Fin interfaces) (free : Option Packet)

/-- The events that come about as part of others here. -/
def RouterEvent.isShared : RouterEvent interfaces → Bool
  | .arrive .. | .takeIcmp => true
  | _ => false

namespace RouterSystem

/-- What a round of the router reports. -/
def eventReports (config : FwRouterConfig interfaces) (system : RouterSystem interfaces) :
    RouterEvent interfaces → List (IcmpReport interfaces)
  | .route interface filter =>
    match (system.router.fwFilters interface filter).entries with
    | [] => []
    | buffer :: _ => Router.routeReports config system.router interface buffer
  | .respond outInterface =>
    match (system.router.arpRespQueue outInterface).entries with
    | [] => []
    | response :: _ => system.router.respondReports outInterface response
  | _ => []

end RouterSystem

namespace IcmpSystem

/-- A filter gets a packet of its protocol. It passes it on to the router or returns it. -/
def receive (config : IcmpSystemConfig interfaces) (system : IcmpSystem interfaces)
    (protocol : FilterProtocol) (interface : Fin interfaces) (buffer : NetBuffDesc)
    (packet : Packet) : Option (IcmpSystem interfaces) :=
  if getProtocolMatch (config.rxClients interface) packet =
      some (config.rxClient interface protocol) then
    let icmpQueue := system.filterIcmpQueue protocol interface
    let result := protocol.filter (config.filter interface) (system.filters protocol interface)
      ((system.filters protocol).externalInstances interface) icmpQueue packet
    let reports := (result.icmpQueue.entries.drop icmpQueue.entries.length).map
      fun req => { req, packet }
    let filtered := { system with
      filters := update system.filters protocol
        (update (system.filters protocol) interface result.state)
      filterIcmpQueue := update system.filterIcmpQueue protocol
        (update (system.filterIcmpQueue protocol) interface result.icmpQueue)
      filterReports := update system.filterReports protocol
        (update (system.filterReports protocol) interface
          (system.filterReports protocol interface ++ reports)) }
    match result.transmitted with
    | none => some filtered
    | some forwarded =>
      (system.routing.next config.router
        (.arrive interface (config.filterIndex protocol) buffer forwarded)).map fun routing =>
          { filtered with routing }
  else none

def callFilter (config : IcmpSystemConfig interfaces) (system : IcmpSystem interfaces)
    (protocol : FilterProtocol) (interface : Fin interfaces) (call : ProtectedCall) :
    Option (IcmpSystem interfaces) :=
  match filterProtected protocol (config.actions protocol) (system.filters protocol interface)
      call with
  | .error _ => none
  | .ok (_, state) =>
    some { system with
      filters := update system.filters protocol (update (system.filters protocol) interface state) }

/-- A round of the router, or of a component around it. -/
def routerActs (config : IcmpSystemConfig interfaces) (system : IcmpSystem interfaces)
    (event : RouterEvent interfaces) : Option (IcmpSystem interfaces) :=
  if event.isShared then none
  else
    (system.routing.next config.router event).map fun routing =>
      { system with
        routing
        routerReports := system.routerReports ++
          (system.routing.eventReports config.router event).take
            system.routing.router.icmpQueue.room }

/-- The ICMP module processes a request that is about the first of the packets. -/
def emit (config : IcmpSystemConfig interfaces) (system : IcmpSystem interfaces)
    (free : Option Packet) (req : IcmpReq interfaces) (reports : List (IcmpReport interfaces)) :
    IcmpSystem interfaces :=
  { system with
    emitted := system.emitted ++ ((processIcmpRequest config.icmpModule free req).map fun frame =>
      (frame, reports.head?.map IcmpReport.packet)).toList }

def generateRouter (config : IcmpSystemConfig interfaces) (system : IcmpSystem interfaces)
    (free : Option Packet) : Option (IcmpSystem interfaces) :=
  (fwDequeue system.routing.router.icmpQueue).map fun (req, queue) =>
    { system.emit config free req system.routerReports with
      routing := { system.routing with router := { system.routing.router with icmpQueue := queue } }
      routerReports := system.routerReports.tail }

def generateFilter (config : IcmpSystemConfig interfaces) (system : IcmpSystem interfaces)
    (protocol : FilterProtocol) (interface : Fin interfaces) (free : Option Packet) :
    Option (IcmpSystem interfaces) :=
  (fwDequeue (system.filterIcmpQueue protocol interface)).map fun (req, queue) =>
    { system.emit config free req (system.filterReports protocol interface) with
      filterIcmpQueue := update system.filterIcmpQueue protocol
        (update (system.filterIcmpQueue protocol) interface queue)
      filterReports := update system.filterReports protocol
        (update (system.filterReports protocol) interface
          (system.filterReports protocol interface).tail) }

/-- What an event does: `none` when it cannot happen or an assertion fails. -/
def perform (config : IcmpSystemConfig interfaces) (system : IcmpSystem interfaces) :
    IcmpEvent interfaces → Option (IcmpSystem interfaces)
  | .receive protocol interface buffer packet =>
    system.receive config protocol interface buffer packet
  | .callFilter protocol interface call => system.callFilter config protocol interface call
  | .router event => system.routerActs config event
  | .generateRouter free => system.generateRouter config free
  | .generateFilter protocol interface free =>
    system.generateFilter config protocol interface free

/-- A system with a router that has nothing in it, and without requests. The rules of the filters
are any. -/
structure Initial (system : IcmpSystem interfaces) : Prop where
  routing : system.routing.Initial
  routerQueue : system.routing.router.icmpQueue.entries = []
  filterQueue : ∀ protocol interface, (system.filterIcmpQueue protocol interface).entries = []
  routerReports : system.routerReports = []
  filterReports : ∀ protocol interface, system.filterReports protocol interface = []
  emitted : system.emitted = []

end IcmpSystem

def IcmpStep (config : IcmpSystemConfig interfaces) (system : IcmpSystem interfaces)
    (event : IcmpEvent interfaces) (next : IcmpSystem interfaces) : Prop :=
  system.perform config event = some next

end LionsOS.Firewall
