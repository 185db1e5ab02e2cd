/-
This file embeds the receive virtualiser of `firewall_network_virt_rx.c`. It passes
each buffer that the driver has filled to the first client that the packet is for, as
an offset into the receive region, or gives it back to the driver; and it returns the
buffers that its network and firewall clients free to the driver, as IO addresses. One
event is one turn of one of its loops. The driver and the clients act in between, and
the clients pass buffers on among themselves. Signals and the cleaning of the cache are
left out.
-/

import LionsOS.Firewall.PacketFilter
import LionsOS.Firewall.VirtTx
import Mathlib.Data.Fintype.Sum
import Mathlib.Tactic.DeriveFintype

namespace LionsOS.Firewall

open StepRun

/-! ### Configuration -/

/-- The configurations of the virtualiser and of its firewall clients. The build gives every queue
as many entries as the receive region has buffers. -/
structure VirtRxConfig where
  ioAddr : UInt64T
  /-- The buffers of the region, and the entries of the driver's queues. -/
  numBuffers : UInt16T
  numClients : Nat
  /-- The traffic that each network client gets. -/
  traffic : Fin numClients → RxClient
  /-- The capacity of the queues of each network client. -/
  clients : Fin numClients → Nat
  room : ∀ client, numBuffers.toNat ≤ clients client
  numFreeClients : Nat
  /-- The capacity of the queue of each free firewall client. -/
  freeClients : Fin numFreeClients → Nat
  freeRoom : ∀ client, numBuffers.toNat ≤ freeClients client
  /-- On a platform other than the QEMU one, frames end with four bytes more. -/
  promiscuous : Bool

/-- The queues that the virtualiser has handles of. -/
inductive RxQueue (config : VirtRxConfig) where
  | drvActive
  | drvFree
  | clientActive (client : Fin config.numClients)
  | clientFree (client : Fin config.numClients)
  | fwFree (client : Fin config.numFreeClients)
  deriving DecidableEq, Fintype

variable {config : VirtRxConfig}

def RxQueue.capacity : RxQueue config → Nat
  | .drvActive | .drvFree => config.numBuffers.toNat
  | .clientActive client | .clientFree client => config.clients client
  | .fwFree client => config.freeClients client

namespace VirtRxConfig

variable (config : VirtRxConfig)

def toOffset (ioAddr : Nat) : Nat :=
  (BitVec.ofNat 64 ioAddr - config.ioAddr).toNat

def toIoAddr (offset : Nat) : Nat :=
  (BitVec.ofNat 64 offset + config.ioAddr).toNat

/-- The offset of a buffer of the region. -/
def offsetOf (index : Nat) : Nat :=
  index * netBufferSize

/-- The IO addresses that the driver is given at first. -/
def ioAddrs : List Nat :=
  (List.range config.numBuffers.toNat).map fun index => config.toIoAddr (offsetOf index)

/-- What `net_buffers_init` puts in the driver's free queue. -/
def buffersInit : FwQueue NetBuffDesc where
  entries := config.ioAddrs.map fun ioOrOffset => { ioOrOffset, len := 0 }
  capacity := config.numBuffers.toNat
  bounded := by rw [List.length_map, ioAddrs, List.length_map, List.length_range]

/-- The client that a packet goes to, as one of those that there are. -/
def protocolMatch (packet : Packet) : Option (Fin config.numClients) :=
  (getProtocolMatch (List.ofFn config.traffic) packet).bind fun client =>
    if within : client < config.numClients then some ⟨client, within⟩ else none

end VirtRxConfig

/-! ### State -/

inductive VirtRxAssertion where
  /-- A client frees an offset that is out of range. -/
  | buffer
  /-- A queue has no room. -/
  | enqueue
  deriving DecidableEq

/-- The virtualiser among the others, with what happened so far. -/
structure VirtRxSystem (config : VirtRxConfig) where
  queues : RxQueue config → FwQueue NetBuffDesc
  /-- The bytes of the receive region. -/
  region : Packet
  /-- The IO addresses that the driver has taken and not given back. -/
  driverHolds : Multiset Nat
  /-- The offsets that the clients have taken and not freed. -/
  clientsHold : Multiset Nat
  /-- The offsets that clients have freed. -/
  freed : Multiset Nat
  /-- The IO addresses that were returned to the driver for clients. -/
  returned : Multiset Nat
  failure : Option VirtRxAssertion

inductive VirtRxEvent (config : VirtRxConfig) where
  | driverTake
  /-- The driver gives a buffer back; the device has written to the region. -/
  | driverReceive (ioAddr : Nat) (len : UInt16T) (region : Packet)
  /-- A turn of the loop of `rx_return`. -/
  | rxReturn
  | takeActive (client : Fin config.numClients)
  /-- The clients write to the region. -/
  | write (region : Packet)
  | freeNet (client : Fin config.numClients) (offset : Nat) (len : UInt16T)
  | freeFw (client : Fin config.numFreeClients) (offset : Nat) (len : UInt16T)
  /-- A turn of the first loop of `rx_provide`. -/
  | provideNet (client : Fin config.numClients)
  /-- A turn of the second loop of `rx_provide`. -/
  | provideFw (client : Fin config.numFreeClients)

namespace VirtRxSystem

/-- Nothing has been received. -/
def initial (config : VirtRxConfig) : VirtRxSystem config where
  queues
    | .drvFree => config.buffersInit
    | queue => .empty queue.capacity
  region _ := 0
  driverHolds := 0
  clientsHold := 0
  freed := 0
  returned := 0
  failure := none

variable (system : VirtRxSystem config)

/-- An assertion fails. -/
def fail (failure : VirtRxAssertion) : VirtRxSystem config :=
  { system with failure := some failure }

def setQueue (queue : RxQueue config) (entries : FwQueue NetBuffDesc) : VirtRxSystem config :=
  { system with queues := Function.update system.queues queue entries }

def dequeue (queue : RxQueue config) : Option (NetBuffDesc × VirtRxSystem config) :=
  (fwDequeue (system.queues queue)).map fun (buffer, rest) => (buffer, system.setQueue queue rest)

/-- Others only enqueue where there is room. -/
def offer (queue : RxQueue config) (buffer : NetBuffDesc) : Option (VirtRxSystem config) :=
  (fwEnqueue (system.queues queue) buffer).map fun longer => system.setQueue queue longer

def enqueue (queue : RxQueue config) (buffer : NetBuffDesc) : VirtRxSystem config :=
  (system.offer queue buffer).getD (system.fail .enqueue)

def driverTake : Option (VirtRxSystem config) :=
  (system.dequeue .drvFree).map fun (buffer, system) =>
    { system with driverHolds := system.driverHolds + {buffer.ioOrOffset} }

/-- The driver gives back only what it holds. -/
def driverReceive (ioAddr : Nat) (len : UInt16T) (region : Packet) : Option (VirtRxSystem config) :=
  if ioAddr ∈ system.driverHolds then
    (system.offer .drvActive { ioOrOffset := ioAddr, len }).map fun system =>
      { system with region, driverHolds := system.driverHolds.erase ioAddr }
  else none

def rxReturn : Option (VirtRxSystem config) :=
  (system.dequeue .drvActive).map fun (buffer, system) =>
    let offset := config.toOffset buffer.ioOrOffset
    let len := if config.promiscuous then buffer.len - 4 else buffer.len
    match config.protocolMatch (system.region.advance offset) with
    | some client => system.enqueue (.clientActive client) { ioOrOffset := offset, len }
    | none => system.enqueue .drvFree { ioOrOffset := config.toIoAddr offset, len }

def takeActive (client : Fin config.numClients) : Option (VirtRxSystem config) :=
  (system.dequeue (.clientActive client)).map fun (buffer, system) =>
    { system with clientsHold := system.clientsHold + {buffer.ioOrOffset} }

/-- Clients free what one of them holds. -/
def freeBuffer (queue : RxQueue config) (offset : Nat) (len : UInt16T) :
    Option (VirtRxSystem config) :=
  if offset ∈ system.clientsHold then
    (system.offer queue { ioOrOffset := offset, len }).map fun system =>
      { system with
        clientsHold := system.clientsHold.erase offset
        freed := system.freed + {offset} }
  else none

/-- What the assertion about a freed buffer says. -/
def Asserted (capacity offset : Nat) : Prop :=
  offset % netBufferSize = 0 ∧ offset < netBufferSize * capacity

instance (capacity offset : Nat) : Decidable (Asserted capacity offset) :=
  inferInstanceAs (Decidable (_ ∧ _))

/-- A turn of a loop over a free queue. -/
def provide (queue : RxQueue config) : Option (VirtRxSystem config) :=
  (system.dequeue queue).map fun (buffer, system) =>
    if Asserted queue.capacity buffer.ioOrOffset then
      let ioAddr := config.toIoAddr buffer.ioOrOffset
      match system.offer .drvFree { ioOrOffset := ioAddr, len := buffer.len } with
      | none => system.fail .enqueue
      | some system => { system with returned := system.returned + {ioAddr} }
    else system.fail .buffer

/-- What an event does, where it is possible. -/
def act : VirtRxEvent config → Option (VirtRxSystem config)
  | .driverTake => system.driverTake
  | .driverReceive ioAddr len region => system.driverReceive ioAddr len region
  | .rxReturn => system.rxReturn
  | .takeActive client => system.takeActive client
  | .write region => some { system with region }
  | .freeNet client offset len => system.freeBuffer (.clientFree client) offset len
  | .freeFw client offset len => system.freeBuffer (.fwFree client) offset len
  | .provideNet client => system.provide (.clientFree client)
  | .provideFw client => system.provide (.fwFree client)

/-- One step, unless an assertion has failed. -/
def perform (event : VirtRxEvent config) : Option (VirtRxSystem config) :=
  if system.failure.isSome then none else system.act event

def Step (system : VirtRxSystem config) (event : VirtRxEvent config)
    (next : VirtRxSystem config) : Prop :=
  system.perform event = some next

end VirtRxSystem

end LionsOS.Firewall
